import SitePlan.Address.Ipv4

/-!
# Address blocks

A block holds the addresses that agree with one address in their leading bits. It is
written as that address and the number of leading bits. The address may be any of the
block, and it is kept as given.
-/

namespace SitePlan

/-- An address block, named by one of its addresses. -/
structure Cidr where
  /-- An address of the block. -/
  address : Ipv4
  /-- How many leading bits the block's addresses share. -/
  bits : Nat
  /-- An address has 32 bits. -/
  bits_le : bits ≤ 32
  deriving DecidableEq

namespace Cidr

/-- How many addresses a block of this many leading bits has. -/
def sizeOf (bits : Nat) : Nat := 1 <<< (32 - bits)

/-- How many addresses the block has. -/
def size (c : Cidr) : Nat := sizeOf c.bits

/-- The number of the block's first address. -/
def first (c : Cidr) : Nat := c.address.value / c.size * c.size

/-- The number of the block's last address. -/
def last (c : Cidr) : Nat := c.first + c.size - 1

/-- The block at this number with this many leading bits, if there is one. -/
def ofNat? (value bits : Nat) : Option Cidr :=
  if h : value < 0x100000000 ∧ bits ≤ 32 then some ⟨⟨value, h.1⟩, bits, h.2⟩ else none

/-- The block of the address with these octets. -/
def ofOctets (a b c d : UInt8) (bits : Nat) (bits_le : bits ≤ 32 := by decide) : Cidr :=
  ⟨.ofOctets a b c d, bits, bits_le⟩

/-- A block has an address, however many bits it leads with. -/
theorem sizeOf_pos (bits : Nat) : 0 < sizeOf bits := by
  rw [sizeOf, Nat.one_shiftLeft]
  exact Nat.two_pow_pos _

/-- Blocks of one size divide the addresses evenly. -/
theorem sizeOf_dvd (bits : Nat) : sizeOf bits ∣ 0x100000000 := by
  rw [sizeOf, Nat.one_shiftLeft]
  exact Nat.pow_dvd_pow 2 (Nat.sub_le 32 bits)

/-- The block's size is positive. -/
theorem size_pos (c : Cidr) : 0 < c.size := sizeOf_pos c.bits

/-- The first address is not after the one that names the block. -/
theorem first_le (c : Cidr) : c.first ≤ c.address.value := Nat.div_mul_le_self _ _

/-- The address that names the block is not after the last one. -/
theorem le_last (c : Cidr) : c.address.value ≤ c.last := by
  have hpos := c.size_pos
  have hlt := Nat.lt_div_mul_add hpos (a := c.address.value)
  simp only [last, first]
  omega

/-- The last address is an address. -/
theorem last_lt (c : Cidr) : c.last < 0x100000000 := by
  have hpos := c.size_pos
  have hdvd : c.size ∣ 0x100000000 := sizeOf_dvd c.bits
  obtain ⟨k, hk⟩ := hdvd
  have hlt : c.address.value / c.size < k := by
    rw [Nat.div_lt_iff_lt_mul hpos, Nat.mul_comm, ← hk]
    exact c.address.value_lt
  have hle : (c.address.value / c.size + 1) * c.size ≤ k * c.size :=
    Nat.mul_le_mul_right _ hlt
  rw [Nat.mul_comm k, ← hk, Nat.add_mul, Nat.one_mul] at hle
  simp only [last, first]
  omega

/-- The first address of the block. -/
def network (c : Cidr) : Ipv4 := ⟨c.first, Nat.lt_of_le_of_lt c.first_le c.address.value_lt⟩

/-- The last address of the block. -/
def broadcast (c : Cidr) : Ipv4 := ⟨c.last, c.last_lt⟩

/-- The address lies in the block. -/
def contains (c : Cidr) (ip : Ipv4) : Bool := c.first ≤ ip.value && ip.value ≤ c.last

/-- The two blocks have an address in common. -/
def overlaps (a b : Cidr) : Bool := a.first ≤ b.last && b.first ≤ a.last

/-- The same block, named by its first address. -/
def dropHost (c : Cidr) : Cidr := ⟨c.network, c.bits, c.bits_le⟩

/-- The block as written. -/
def render (c : Cidr) : String := s!"{c.address.render}/{c.bits}"

/-- The number of leading bits: decimal digits, perhaps after a plus sign, at most 32. -/
def bits? (cs : List Char) : Option Nat := do
  let n ← Text.readNat? (match cs with
    | '+' :: digits => digits
    | _ => cs)
  if n ≤ 32 then some n else none

/-- The number of leading bits that a mask address stands for. -/
def bitsOfMask? (mask : Ipv4) : Option Nat :=
  (List.range 33).find? fun bits => mask.value + sizeOf bits = 0x100000000

/-- The number of leading bits as people write it: a count or a mask address. -/
def suffix? (cs : List Char) : Option Nat :=
  match Ipv4.ofChars? cs with
  | some mask => bitsOfMask? mask
  | none => bits? cs

/-- The block that a text is. A lone address is a block of one. -/
def parse? (s : String) : Option Cidr :=
  match Text.split '/' s.toList with
  | [address] => do ofNat? (← Ipv4.ofChars? address).value 32
  | [address, suffix] => do
    let ip ← Ipv4.ofChars? address
    ofNat? ip.value (← suffix? suffix)
  | _ => none

end Cidr

end SitePlan
