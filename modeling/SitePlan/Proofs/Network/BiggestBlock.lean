import SitePlan.Proofs.Network.FirstFit

/-!
# The largest block

The largest block is looked for size by size, from the wanted size or that of the network down to
sixteen addresses, and then carved like a block of the size that was found. Both steps go by the
same search, so what the first one finds the second one carves, and no larger block is missed.
-/

namespace SitePlan.Network

open Outcome

/-- A block that the search for the largest one may end with. -/
structure IsCandidate (n : Network) (maxBits : Nat) (c : Cidr) : Prop where
  /-- The block can be given to a new subnet. -/
  fits : n.Fits c
  /-- It is not larger than wanted, nor than the network. -/
  le_bits : max maxBits n.cidr.bits ≤ c.bits
  /-- It has sixteen addresses or more, unless fewer are wanted or the network has fewer. -/
  bits_le : c.bits ≤ max 28 (max maxBits n.cidr.bits)

/-- The block is the largest candidate, and the lowest one of its size. -/
structure IsBiggestFit (n : Network) (maxBits : Nat) (c : Cidr) : Prop where
  /-- The search may end with the block. -/
  candidate : n.IsCandidate maxBits c
  /-- No candidate is larger. -/
  largest : ∀ d, n.IsCandidate maxBits d → c.bits ≤ d.bits
  /-- No block of its size that can be given to a new subnet is lower. -/
  lowest : ∀ d, n.Fits d → d.bits = c.bits → c.first ≤ d.first

variable {n : Network}

/-- A size is tried with success exactly if a block of it fits. -/
theorem isSome_freeBlock?_iff {bits : Nat} :
    (n.freeBlock? bits []).isSome = true ↔ ∃ c, n.Fits c ∧ c.bits = bits := by
  rw [← exists_isFirstFit_iff, Option.isSome_iff_exists]
  simp only [freeBlock?_nil_eq_some_iff]

/-- The sizes that are tried for the largest block, in this order. -/
def triedSizes (n : Network) (maxBits : Nat) : List Nat :=
  List.range' (max maxBits n.cidr.bits)
    (max smallestBits (max maxBits n.cidr.bits) + 1 - max maxBits n.cidr.bits)

/-- Sizes are tried from the wanted one or that of the network on. -/
theorem mem_triedSizes {maxBits bits : Nat} :
    bits ∈ n.triedSizes maxBits ↔
      max maxBits n.cidr.bits ≤ bits ∧ bits ≤ max 28 (max maxBits n.cidr.bits) := by
  simp only [triedSizes, List.mem_range'_1, smallestBits]
  omega

/-- The first size that is tried with success is that of the largest candidate. -/
theorem find?_triedSizes_eq_some_iff {maxBits bits : Nat} :
    ((n.triedSizes maxBits).find? fun bits => (n.freeBlock? bits []).isSome) = some bits ↔
      (∃ c, n.IsCandidate maxBits c ∧ c.bits = bits) ∧
        ∀ d, n.IsCandidate maxBits d → bits ≤ d.bits := by
  rw [triedSizes, List.find?_range'_eq_some, ← triedSizes, mem_triedSizes, isSome_freeBlock?_iff]
  constructor
  · rintro ⟨⟨c, hfits, rfl⟩, ⟨hle, hle'⟩, hearlier⟩
    refine ⟨⟨c, ⟨hfits, hle, hle'⟩, rfl⟩, fun d hd => ?_⟩
    by_contra hlarger
    have hfailed := hearlier d.bits hd.le_bits (by omega)
    rw [isSome_freeBlock?_iff.mpr ⟨d, hd.fits, rfl⟩] at hfailed
    cases hfailed
  · rintro ⟨⟨c, hc, rfl⟩, hlargest⟩
    refine ⟨⟨c, hc.fits, rfl⟩, ⟨hc.le_bits, hc.bits_le⟩, fun size hsize hlt => ?_⟩
    rw [Bool.not_eq_true', ← Bool.not_eq_true, isSome_freeBlock?_iff]
    rintro ⟨d, hfits, rfl⟩
    have hge := hlargest d ⟨hfits, hsize, by have := hc.bits_le; omega⟩
    omega

/-- No size is tried with success exactly if there is no candidate. -/
theorem find?_triedSizes_eq_none_iff {maxBits : Nat} :
    ((n.triedSizes maxBits).find? fun bits => (n.freeBlock? bits []).isSome) = none ↔
      ∀ c, ¬n.IsCandidate maxBits c := by
  simp only [List.find?_eq_none, isSome_freeBlock?_iff, mem_triedSizes]
  constructor
  · intro hfailed c hc
    exact hfailed c.bits ⟨hc.le_bits, hc.bits_le⟩ ⟨c, hc.fits, rfl⟩
  · rintro hnone bits ⟨hle, hle'⟩ ⟨c, hfits, rfl⟩
    exact hnone c ⟨hfits, hle, hle'⟩

section

variable {maxBits : Nat} {name : String} {vlan : UInt16}

/-- The sizes of the network and of single addresses bound those that are tried. -/
theorem checkBits_max (hle : maxBits ≤ 32) : n.checkBits (max maxBits n.cidr.bits) = .ok () :=
  checkBits_eq_ok.mpr ⟨Nat.le_max_right _ _, Nat.max_le.mpr ⟨hle, n.cidr.bits_le⟩⟩

/-- Where the name can be carved and the wanted size exists, the sizes are tried. -/
theorem carveBiggest_eq (hcan : n.checkCanCarve name = .ok ()) (hle : maxBits ≤ 32) :
    n.carveBiggest maxBits name vlan =
      match (n.triedSizes maxBits).find? fun bits => (n.freeBlock? bits []).isSome with
      | some bits => n.carve bits name vlan
      | none => .error (.noFreeBlock n.name n.cidr maxBits name) := by
  rw [carveBiggest, hcan]
  dsimp only
  rw [checkBits_max hle]
  rfl

/-- The largest subnet is carved on the block that fits best. -/
theorem carveBiggest_eq_ok_iff (hcan : n.checkCanCarve name = .ok ()) (hle : maxBits ≤ 32)
    {s : Subnet} :
    n.carveBiggest maxBits name vlan = .ok s ↔
      ∃ c, n.IsBiggestFit maxBits c ∧ s = .create name c vlan := by
  rw [carveBiggest_eq hcan hle]
  constructor
  · intro hcarve
    split at hcarve
    · next bits hfound =>
      obtain ⟨⟨c, hc, rfl⟩, hlargest⟩ := find?_triedSizes_eq_some_iff.mp hfound
      obtain ⟨_, _, d, hd, rfl⟩ := carve_eq_ok.mp hcarve
      have hfirst := freeBlock?_nil_eq_some_iff.mp hd
      have hbits := hfirst.bits_eq
      refine ⟨d, ⟨⟨hfirst.fits, ?_, ?_⟩, fun e he => ?_, fun e he he' => ?_⟩, rfl⟩
      · exact hbits ▸ hc.le_bits
      · exact hbits ▸ hc.bits_le
      · exact hbits ▸ hlargest e he
      · exact hfirst.lowest e he (he'.trans hbits)
    · cases hcarve
  · rintro ⟨c, hc, rfl⟩
    rw [find?_triedSizes_eq_some_iff.mpr ⟨⟨c, hc.candidate, rfl⟩, hc.largest⟩]
    -- The size that was found can be carved, for it is one of those that were tried.
    have hsize : n.checkBits c.bits = .ok () :=
      checkBits_eq_ok.mpr
        ⟨Nat.le_trans (Nat.le_max_right _ _) hc.candidate.le_bits, c.bits_le⟩
    exact (carve_eq_ok_iff hcan hsize).mpr ⟨c, ⟨hc.candidate.fits, rfl, hc.lowest⟩, rfl⟩

/-- There is a block that fits best as soon as there is a candidate. -/
theorem exists_isBiggestFit_iff :
    (∃ c, n.IsBiggestFit maxBits c) ↔ ∃ c, n.IsCandidate maxBits c := by
  constructor
  · rintro ⟨c, hc⟩
    exact ⟨c, hc.candidate⟩
  · rintro ⟨c, hc⟩
    cases hfind : (n.triedSizes maxBits).find? fun bits => (n.freeBlock? bits []).isSome with
    | none => exact absurd hc (find?_triedSizes_eq_none_iff.mp hfind c)
    | some bits =>
      obtain ⟨⟨d, hd, rfl⟩, hlargest⟩ := find?_triedSizes_eq_some_iff.mp hfind
      obtain ⟨e, he⟩ := exists_isFirstFit_iff.mpr ⟨d, hd.fits, rfl⟩
      have hbits := he.bits_eq
      refine ⟨e, ⟨he.fits, hbits ▸ hd.le_bits, hbits ▸ hd.bits_le⟩, fun f hf => ?_,
        fun f hf hf' => ?_⟩
      · exact hbits ▸ hlargest f hf
      · exact he.lowest f hf (hf'.trans hbits)

/-- A size beyond that of a single address can never be carved. -/
theorem exists_carveBiggest_eq_error (n : Network) (hgt : 32 < maxBits) (name : String)
    (vlan : UInt16) : ∃ fault, n.carveBiggest maxBits name vlan = .error fault := by
  have hsize : n.checkBits (max maxBits n.cidr.bits) =
      .error (.sizeOutOfRange n.name n.cidr (max maxBits n.cidr.bits)) := by
    have hbeyond : 32 < max maxBits n.cidr.bits := Nat.lt_of_lt_of_le hgt (Nat.le_max_left _ _)
    simp [checkBits, hbeyond]
  rw [carveBiggest]
  cases n.checkCanCarve name with
  | error fault => exact ⟨fault, rfl⟩
  | ok =>
    dsimp only
    rw [hsize]
    exact ⟨_, rfl⟩

end

/-- The largest block is maximal. A network that is not sealed gives it to a new name exactly if
some block lies in the network, has no address of a subnet and is of a size from the wanted one or
that of the network to sixteen addresses, or of the first of these sizes if it is smaller. The
subnet is made for the largest such block, the lowest one of its size, and added after the others.
If there is none, this is the fault and the network stays as it was. A size beyond that of a single
address is refused by every network, which stays as it was. -/
theorem addBiggestSubnet_isMaximal (n : Network) (maxBits : Nat) (name : String)
    (vlan : UInt16) :
    (n.isSealed = false → name ∉ n.subnetNames → maxBits ≤ 32 →
      ((∃ s m, n.addBiggestSubnet maxBits name vlan = .ok (s, m)) ↔
        ∃ c, n.IsCandidate maxBits c) ∧
      (∀ s m, n.addBiggestSubnet maxBits name vlan = .ok (s, m) ↔
        ∃ c, n.IsBiggestFit maxBits c ∧ s = .create name c vlan ∧ m = n.push s) ∧
      ((¬∃ c, n.IsCandidate maxBits c) →
        (CarveCall.addBiggest maxBits name vlan).run n =
          (.error (.noFreeBlock n.name n.cidr maxBits name), n))) ∧
    (32 < maxBits →
      ∃ fault, (CarveCall.addBiggest maxBits name vlan).run n = (.error fault, n)) := by
  refine ⟨fun hopen hnew hle => ?_, fun hgt => ?_⟩
  · have hcan := checkCanCarve_eq_ok.mpr ⟨hopen, hnew⟩
    have hcarved : ∀ s, n.carveBiggest maxBits name vlan = .ok s ↔
        ∃ c, n.IsBiggestFit maxBits c ∧ s = .create name c vlan :=
      fun _ => carveBiggest_eq_ok_iff hcan hle
    refine ⟨?_, add_eq_ok_iff hcarved, fun hfull => ?_⟩
    · exact (exists_add_eq_ok_iff hcarved).trans exists_isBiggestFit_iff
    · have hnone := find?_triedSizes_eq_none_iff.mpr fun c hc => hfull ⟨c, hc⟩
      rw [CarveCall.run, addBiggestSubnet, carveBiggest_eq hcan hle, hnone]
      rfl
  · obtain ⟨fault, hfault⟩ := n.exists_carveBiggest_eq_error hgt name vlan
    rw [CarveCall.run, addBiggestSubnet, hfault]
    exact ⟨fault, rfl⟩

/-- A network of 128 addresses with two subnets. -/
def quarteredNetwork : Network where
  name := "CAN"
  cidr := .ofOctets 10 102 11 0 25
  vlanRange := .single 7
  mtu := 9000
  fabric := .ethernet
  subnets := [.create "a" (.ofOctets 10 102 11 0 26) 7, .create "b" (.ofOctets 10 102 11 64 27) 7]

/-- A network of four addresses, two of which are free. -/
def pairedNetwork : Network where
  name := "PAIR"
  cidr := .ofOctets 10 102 11 0 30
  vlanRange := .single 7
  mtu := 9000
  fabric := .ethernet
  subnets := [.create "a" (.ofOctets 10 102 11 0 31) 7]

/-- What is left of the larger network is its largest block. The smaller network has a free block
that is not offered, for only the size of the whole network is tried. -/
theorem addBiggestSubnet_isMaximal_quarteredNetwork :
    quarteredNetwork.isSealed = false ∧ "rest" ∉ quarteredNetwork.subnetNames ∧
      (∃ s m, quarteredNetwork.addBiggestSubnet 20 "rest" 7 = .ok (s, m) ∧
        s.cidr = .ofOctets 10 102 11 96 27 ∧ quarteredNetwork.IsBiggestFit 20 s.cidr) ∧
      pairedNetwork.isSealed = false ∧ "rest" ∉ pairedNetwork.subnetNames ∧
      (∃ s m, pairedNetwork.addSubnet 31 "rest" 7 = .ok (s, m)) ∧
      (∀ c, ¬pairedNetwork.IsCandidate 20 c) ∧
      ∃ fault, (CarveCall.addBiggest 40 "rest" 7).run pairedNetwork =
        (.error fault, pairedNetwork) := by
  have hopen : quarteredNetwork.isSealed = false := rfl
  have hnew : "rest" ∉ quarteredNetwork.subnetNames := by decide
  have hopen' : pairedNetwork.isSealed = false := rfl
  have hnew' : "rest" ∉ pairedNetwork.subnetNames := by decide
  obtain ⟨_, hcarved, _⟩ :=
    (addBiggestSubnet_isMaximal quarteredNetwork 20 "rest" 7).1 hopen hnew (by decide)
  obtain ⟨hexists, _⟩ :=
    (addBiggestSubnet_isMaximal pairedNetwork 20 "rest" 7).1 hopen' hnew' (by decide)
  have hrefused := (addBiggestSubnet_isMaximal pairedNetwork 40 "rest" 7).2 (by decide)
  obtain ⟨⟨s, m⟩, hadd, hblock⟩ : ∃ made,
      quarteredNetwork.addBiggestSubnet 20 "rest" 7 = .ok made ∧
        decide (made.1.cidr = .ofOctets 10 102 11 96 27) = true :=
    exists_of_toOption_any (by decide +kernel)
  obtain ⟨⟨t, k⟩, hpair⟩ : ∃ made, pairedNetwork.addSubnet 31 "rest" 7 = .ok made :=
    exists_of_isOk (by decide +kernel)
  refine ⟨hopen, hnew, ⟨s, m, hadd, of_decide_eq_true hblock, ?_⟩, hopen', hnew', ⟨t, k, hpair⟩,
    fun c hc => ?_, hrefused⟩
  · obtain ⟨c, hc, rfl, _⟩ := (hcarved s m).mp hadd
    exact hc
  · obtain ⟨u, l, hadd'⟩ := hexists.mpr ⟨c, hc⟩
    have hfull : pairedNetwork.addBiggestSubnet 20 "rest" 7 =
        .error (.noFreeBlock "PAIR" (.ofOctets 10 102 11 0 30) 20 "rest") := by decide +kernel
    rw [hfull] at hadd'
    cases hadd'

end SitePlan.Network
