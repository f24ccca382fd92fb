import SitePlan.Address.Cidr
import SitePlan.Proofs.Text.Digits

/-!
# Addresses as text

An address is written as four octets with points between them, and a block as an address and a
count with a slash between them. No octet and no count has a separator in it, so the pieces that a
text is cut into are those that it was put together from, and each of them is read as its number.
-/

namespace SitePlan

/-! ### Addresses -/

namespace Ipv4

/-- An octet is read from its digits. -/
theorem octet?_toDigits {n : Nat} (hn : n < 256) :
    octet? (Nat.toDigits 10 n) = some n.toUInt8 := by
  have hshort : (Nat.toDigits 10 n).length ≤ 3 :=
    (Nat.length_toDigits_le_iff (by decide) (by decide)).mpr (by omega)
  have hpadding : (Nat.toDigits 10 n).head? ≠ some '0' ∨ (Nat.toDigits 10 n).length = 1 := by
    by_cases hzero : (Nat.toDigits 10 n).head? = some '0'
    · exact .inr (by rw [Text.toDigits_eq_zero hzero]; rfl)
    · exact .inl hzero
  simp [octet?, Text.readNat?_toDigits, hshort, hpadding, hn]

/-- The octets of an address are small. -/
theorem lt_of_mem_octets {ip : Ipv4} {n : Nat} (hn : n ∈ ip.octets) : n < 256 := by
  have hlt := ip.value_lt
  simp only [octets, List.mem_cons, List.not_mem_nil, or_false] at hn
  omega

/-- The octets of an address make up the address. -/
theorem ofOctets_octets (ip : Ipv4) :
    ofOctets (ip.value / 0x1000000).toUInt8 (ip.value / 0x10000 % 0x100).toUInt8
      (ip.value / 0x100 % 0x100).toUInt8 (ip.value % 0x100).toUInt8 = ip := by
  have hlt := ip.value_lt
  apply ext_value
  simp only [ofOctets, Nat.toUInt8_eq, UInt8.toNat_ofNat']
  omega

/-- What an address is written with is digits and points. -/
theorem toList_render (ip : Ipv4) :
    ip.render.toList = List.intercalate ['.'] (ip.octets.map (Nat.toDigits 10)) := by
  have hdigits : String.toList ∘ Nat.repr = Nat.toDigits 10 := funext fun _ => Nat.toList_repr
  have hpoint : ".".toList = ['.'] := by decide
  rw [render, String.toList_intercalate, List.map_map, hdigits, hpoint]

/-- The address is read from what it is written with. -/
theorem ofChars?_render (ip : Ipv4) : ofChars? ip.render.toList = some ip := by
  have hpieces : Text.split '.' ip.render.toList = ip.octets.map (Nat.toDigits 10) := by
    rw [toList_render]
    refine Text.split_intercalate (List.cons_ne_nil _ _) fun piece hpiece => ?_
    obtain ⟨n, _, rfl⟩ := List.mem_map.mp hpiece
    exact Text.not_mem_toDigits rfl n
  have hread : (ip.octets.map (Nat.toDigits 10)).mapM octet? =
      some (ip.octets.map Nat.toUInt8) := by
    have hall : ∀ n ∈ ip.octets, octet? (Nat.toDigits 10 n) = some n.toUInt8 :=
      fun n hn => octet?_toDigits (lt_of_mem_octets hn)
    simp only [octets, List.forall_mem_cons] at hall
    simp [octets, hall]
  rw [ofChars?, hpieces, hread]
  exact congrArg some (ofOctets_octets ip)

/-- An address is read from the text that it is written as. -/
theorem parse?_render (ip : Ipv4) : parse? ip.render = some ip := ofChars?_render ip

/-- Nothing but digits and points occurs in an address. -/
theorem not_mem_render (ip : Ipv4) {c : Char} (hdigit : c.isDigit = false) (hpoint : c ≠ '.') :
    c ∉ ip.render.toList := by
  have hdigits : ∀ n, c ∉ Nat.toDigits 10 n := Text.not_mem_toDigits hdigit
  simp [toList_render, octets, hdigits, hpoint]

end Ipv4

/-! ### Blocks -/

namespace Cidr

/-- A count is no mask. -/
theorem ofChars?_toDigits (n : Nat) : Ipv4.ofChars? (Nat.toDigits 10 n) = none := by
  rw [Ipv4.ofChars?, Text.split_of_not_mem (Text.not_mem_toDigits rfl n)]
  cases hoctet : Ipv4.octet? (Nat.toDigits 10 n) <;> simp [hoctet]

/-- A count of leading bits is read from its digits. -/
theorem suffix?_toDigits {n : Nat} (hn : n ≤ 32) : suffix? (Nat.toDigits 10 n) = some n := by
  have hsigned : '+' ∉ Nat.toDigits 10 n := Text.not_mem_toDigits rfl n
  rw [suffix?, ofChars?_toDigits]
  dsimp only
  unfold bits?
  split
  · next heq => exact absurd (heq ▸ List.mem_cons_self) hsigned
  · simp [Text.readNat?_toDigits, hn]

/-- A block is written with its address, a slash and digits. -/
theorem toList_render (c : Cidr) :
    c.render.toList = c.address.render.toList ++ '/' :: Nat.toDigits 10 c.bits := by
  have hslash : (toString "/").toList = ['/'] := by decide
  rw [render, String.toList_append, String.toList_append, hslash, List.append_assoc]
  exact congrArg _ (congrArg _ Nat.toList_repr)

/-- A block is read from the text that it is written as. -/
theorem parse?_render (c : Cidr) : parse? c.render = some c := by
  have hpieces : Text.split '/' c.render.toList =
      [c.address.render.toList, Nat.toDigits 10 c.bits] := by
    rw [toList_render, Text.split_append (c.address.not_mem_render rfl (by decide)),
      Text.split_of_not_mem (Text.not_mem_toDigits rfl _)]
  rw [parse?, hpieces]
  simp [Ipv4.ofChars?_render, suffix?_toDigits c.bits_le, ofNat?, c.address.value_lt, c.bits_le]

end Cidr

end SitePlan
