import Mathlib.Order.Basic
import SitePlan.Address.Cidr

/-!
# Blocks as sets of addresses

Subnets are kept apart by comparing the first and the last addresses of blocks. Here these
comparisons are tied to the addresses in the blocks: disjointness and inclusion are said
address by address, and an aligned block is one without host bits.
-/

namespace SitePlan.Cidr

/-- The block is named by its first address, so no host bit is set. -/
def IsAligned (c : Cidr) : Prop := c.address = c.network

/-- No address lies in both blocks. -/
def Disjoint (a b : Cidr) : Prop := ∀ ip, a.contains ip = true → b.contains ip = false

/-- Every address of the one block lies in the other. -/
def Within (a b : Cidr) : Prop := ∀ ip, a.contains ip = true → b.contains ip = true

/-- Blocks with the same address and as many leading bits are the same. -/
theorem ext_address_bits {a b : Cidr} (haddress : a.address = b.address)
    (hbits : a.bits = b.bits) : a = b := by
  cases a; cases b; simp_all

/-- A block contains an address exactly between its two ends. -/
theorem contains_iff {c : Cidr} {ip : Ipv4} :
    c.contains ip = true ↔ c.first ≤ ip.value ∧ ip.value ≤ c.last := by
  simp [contains]

/-- The first address is not after the last one. -/
theorem first_le_last (c : Cidr) : c.first ≤ c.last := Nat.le_trans c.first_le c.le_last

/-- The ends of a block are in the block. -/
theorem contains_network (c : Cidr) : c.contains c.network = true :=
  contains_iff.mpr ⟨Nat.le_refl _, c.first_le_last⟩

/-- Disjoint blocks lie one after the other. -/
theorem disjoint_iff {a b : Cidr} :
    a.Disjoint b ↔ a.last < b.first ∨ b.last < a.first := by
  constructor
  · intro h
    by_contra hmeet
    have hle := a.first_le_last
    have hle' := b.first_le_last
    -- The later of the two first addresses lies in both blocks.
    rcases Nat.le_total a.first b.first with hfirst | hfirst
    · have hin : a.contains b.network = true :=
        contains_iff.mpr ⟨hfirst, by simp only [network]; omega⟩
      have hout := h b.network hin
      rw [b.contains_network] at hout
      exact absurd hout (by decide)
    · have hin : b.contains a.network = true :=
        contains_iff.mpr ⟨hfirst, by simp only [network]; omega⟩
      have hout := h a.network a.contains_network
      rw [hin] at hout
      exact absurd hout (by decide)
  · intro h ip hip
    have hip' := contains_iff.mp hip
    rw [← Bool.not_eq_true, contains_iff]
    omega

/-- Inclusion of blocks is inclusion of their ends. -/
theorem within_iff {a b : Cidr} : a.Within b ↔ b.first ≤ a.first ∧ a.last ≤ b.last := by
  constructor
  · intro h
    have hfirst := contains_iff.mp (h a.network a.contains_network)
    have hlast := contains_iff.mp
      (h a.broadcast (contains_iff.mpr ⟨a.first_le_last, Nat.le_refl _⟩))
    exact ⟨hfirst.1, hlast.2⟩
  · intro h ip hip
    have hip' := contains_iff.mp hip
    exact contains_iff.mpr (by omega)

/-- Disjointness does not depend on the order of the blocks. -/
theorem Disjoint.symm {a b : Cidr} (h : a.Disjoint b) : b.Disjoint a := by
  rw [disjoint_iff] at h ⊢
  exact h.symm

/-- Blocks inside disjoint blocks are disjoint. -/
theorem Disjoint.mono {a b a' b' : Cidr} (h : a'.Disjoint b') (ha : a.Within a')
    (hb : b.Within b') : a.Disjoint b := by
  intro ip hip
  have hout := h ip (ha ip hip)
  by_contra hin
  simp only [Bool.not_eq_false] at hin
  simp [hb ip hin] at hout

/-- The overlap test tells disjoint blocks. -/
theorem overlaps_eq_false_iff {a b : Cidr} : a.overlaps b = false ↔ a.Disjoint b := by
  rw [disjoint_iff]
  simp only [overlaps, Bool.and_eq_false_iff, decide_eq_false_iff_not, Nat.not_le]
  exact or_comm

/-- A block whose address is a multiple of its size starts at that address. -/
theorem first_eq_of_dvd {c : Cidr} (h : c.size ∣ c.address.value) :
    c.first = c.address.value :=
  Nat.div_mul_cancel h

/-- Aligned blocks start at multiples of their size. -/
theorem isAligned_iff_first_eq {c : Cidr} : c.IsAligned ↔ c.first = c.address.value := by
  constructor
  · intro h
    have hvalue := congrArg Ipv4.value h
    exact hvalue.symm
  · intro h
    exact Ipv4.ext_value h.symm

/-- The first address is a multiple of the size. -/
theorem size_dvd_first (c : Cidr) : c.size ∣ c.first := Nat.dvd_mul_left _ _

/-- Without its host bits a block starts where it did. -/
theorem first_dropHost (c : Cidr) : c.dropHost.first = c.first :=
  first_eq_of_dvd c.size_dvd_first

/-- Without its host bits a block ends where it did. -/
theorem last_dropHost (c : Cidr) : c.dropHost.last = c.last := by
  rw [last, first_dropHost]
  rfl

/-- A block without its host bits is aligned. -/
theorem isAligned_dropHost (c : Cidr) : c.dropHost.IsAligned :=
  isAligned_iff_first_eq.mpr c.first_dropHost

/-- An aligned block has no host bits that could be dropped. -/
theorem IsAligned.dropHost_eq {c : Cidr} (haligned : c.IsAligned) : c.dropHost = c :=
  ext_address_bits haligned.symm rfl

/-- Aligned blocks of one size that start at the same address are the same. -/
theorem IsAligned.eq_of_first {a b : Cidr} (ha : a.IsAligned) (hb : b.IsAligned)
    (hbits : a.bits = b.bits) (hfirst : a.first = b.first) : a = b := by
  rw [isAligned_iff_first_eq] at ha hb
  exact ext_address_bits (Ipv4.ext_value (by omega)) hbits

/-- Aligned blocks of one size are the same or have no address in common. -/
theorem IsAligned.eq_or_disjoint {a b : Cidr} (ha : a.IsAligned) (hb : b.IsAligned)
    (hbits : a.bits = b.bits) : a = b ∨ a.Disjoint b := by
  have hsize : b.size = a.size := by rw [size, size, hbits]
  have hpos := a.size_pos
  have halast : a.last = a.first + a.size - 1 := rfl
  have hblast : b.last = b.first + a.size - 1 := hsize ▸ rfl
  -- both start at multiples of the size, so the first addresses agree or are a size apart
  obtain ⟨i, hi⟩ : a.size ∣ a.first := a.size_dvd_first
  obtain ⟨j, hj⟩ : a.size ∣ b.first := hsize ▸ b.size_dvd_first
  rcases Nat.lt_trichotomy i j with hlt | rfl | hgt
  · have hnext : a.size * (i + 1) ≤ a.size * j := Nat.mul_le_mul_left _ hlt
    rw [Nat.mul_add, Nat.mul_one] at hnext
    exact .inr (disjoint_iff.mpr (.inl (by omega)))
  · exact .inl (ha.eq_of_first hb hbits (hi.trans hj.symm))
  · have hnext : a.size * (j + 1) ≤ a.size * i := Nat.mul_le_mul_left _ hgt
    rw [Nat.mul_add, Nat.mul_one] at hnext
    exact .inr (disjoint_iff.mpr (.inr (by omega)))

/-- No block is apart from itself. -/
theorem not_disjoint_self (c : Cidr) : ¬c.Disjoint c := by
  intro h
  have hout := h c.network c.contains_network
  rw [c.contains_network] at hout
  cases hout

/-- A block lies inside another one with or without its host bits. -/
theorem within_dropHost_iff {a b : Cidr} : a.dropHost.Within b ↔ a.Within b := by
  rw [within_iff, within_iff, first_dropHost, last_dropHost]

/-- A block is apart from another one with or without its host bits. -/
theorem disjoint_dropHost_iff {a b : Cidr} : a.dropHost.Disjoint b ↔ a.Disjoint b := by
  rw [disjoint_iff, disjoint_iff, first_dropHost, last_dropHost]

/-- The block at a number has that number's address and the wanted size. -/
theorem of_ofNat? {value bits : Nat} {c : Cidr} (h : ofNat? value bits = some c) :
    c.address.value = value ∧ c.bits = bits ∧ c.size = sizeOf bits := by
  unfold ofNat? at h
  split at h
  · cases h
    exact ⟨rfl, rfl, rfl⟩
  · cases h

end SitePlan.Cidr
