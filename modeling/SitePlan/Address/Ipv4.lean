import SitePlan.Text.Digit
import SitePlan.Text.Split

/-!
# IPv4 addresses

An address is a number of 32 bits, written as four decimal octets. Octets have no
padding, so every address has one spelling.
-/

namespace SitePlan

/-- An IPv4 address. -/
structure Ipv4 where
  /-- The address as a number. -/
  value : Nat
  /-- It has 32 bits. -/
  value_lt : value < 0x100000000
  deriving DecidableEq

namespace Ipv4

/-- The address with this number; numbers beyond the last address stand for it. -/
def clamp (n : Nat) : Ipv4 := ⟨min n 0xFFFFFFFF, by omega⟩

instance : Inhabited Ipv4 := ⟨clamp 0⟩

/-- The address of four octets. -/
def ofOctets (a b c d : UInt8) : Ipv4 :=
  ⟨a.toNat * 0x1000000 + b.toNat * 0x10000 + c.toNat * 0x100 + d.toNat, by
    have := a.toNat_lt; have := b.toNat_lt; have := c.toNat_lt; have := d.toNat_lt
    omega⟩

/-- The four octets, most significant first. -/
def octets (ip : Ipv4) : List Nat :=
  [ip.value / 0x1000000, ip.value / 0x10000 % 0x100, ip.value / 0x100 % 0x100,
    ip.value % 0x100]

/-- The address as written. -/
def render (ip : Ipv4) : String :=
  ".".intercalate (ip.octets.map Nat.repr)

/-- An octet: one to three digits without padding, at most 255. -/
def octet? (cs : List Char) : Option UInt8 := do
  let n ← Text.readNat? cs
  if cs.length ≤ 3 && (cs.head? ≠ some '0' || cs.length = 1) && n < 256 then
    some n.toUInt8
  else none

/-- The address written by these characters. -/
def ofChars? (cs : List Char) : Option Ipv4 :=
  match (Text.split '.' cs).mapM octet? with
  | some [a, b, c, d] => some (ofOctets a b c d)
  | _ => none

/-- The address that a text is. -/
def parse? (s : String) : Option Ipv4 := ofChars? s.toList

/-- Addresses with the same number are the same. -/
theorem ext_value {a b : Ipv4} (h : a.value = b.value) : a = b := by
  cases a; cases b; simp_all

/-- A number of 32 bits is the number of its address. -/
theorem value_clamp {n : Nat} (h : n < 0x100000000) : (clamp n).value = n := by
  simp only [clamp]
  omega

end Ipv4

end SitePlan
