import SitePlan.Network.Basic
import SitePlan.Proofs.Address.Blocks
import SitePlan.Proofs.Outcome

/-!
# What carving gives

The sweep over the stretches in use returns an aligned place that touches none of them.
Every way to carve a subnet therefore gives a new name and a block that fits: it has no
host bits, lies in the network and shares no address with another subnet.
-/

namespace SitePlan.Network

open Outcome

/-- Rounding up gives a multiple of the size. -/
theorem dvd_alignUp (n size : Nat) : size ∣ alignUp n size := Nat.dvd_mul_left _ _

/-- The sweep stays at multiples of the size. -/
theorem dvd_sweep {size candidate : Nat} (used : List Stretch) (hdvd : size ∣ candidate) :
    size ∣ sweep size candidate used := by
  fun_induction sweep size candidate used with
  | case1 => exact hdvd
  | case2 _ _ _ _ ih => exact ih hdvd
  | case3 => exact hdvd
  | case4 _ _ _ _ _ ih => exact ih (dvd_alignUp _ _)

/-- The sweep never goes back. -/
theorem le_sweep {size : Nat} (hsize : 0 < size) (candidate : Nat) (used : List Stretch) :
    candidate ≤ sweep size candidate used := by
  fun_induction sweep size candidate used with
  | case1 => exact Nat.le_refl _
  | case2 _ _ _ _ ih => exact ih
  | case3 => exact Nat.le_refl _
  | case4 candidate used _ hreached _ ih =>
    have hnext := le_alignUp (used.last + 1) hsize
    omega

/-- The place that the sweep returns lies before or after each stretch. -/
theorem sweep_avoids {size : Nat} (hsize : 0 < size) (candidate : Nat) {used : List Stretch}
    (hsorted : used.Pairwise fun a b => a.first ≤ b.first) :
    ∀ u ∈ used, u.last < sweep size candidate used ∨
      sweep size candidate used + size - 1 < u.first := by
  fun_induction sweep size candidate used with
  | case1 => simp
  | case2 candidate used rest hpassed ih =>
    obtain ⟨_, hrest⟩ := List.pairwise_cons.mp hsorted
    intro u hu
    rcases List.mem_cons.mp hu with rfl | hu
    · exact .inl (Nat.lt_of_lt_of_le hpassed (le_sweep hsize _ _))
    · exact ih hrest u hu
  | case3 candidate used rest _ hroom =>
    -- The first stretch ahead begins behind the candidate, and so do those after it.
    obtain ⟨hfirst, _⟩ := List.pairwise_cons.mp hsorted
    intro u hu
    rcases List.mem_cons.mp hu with rfl | hu
    · exact .inr hroom
    · exact .inr (Nat.lt_of_lt_of_le hroom (hfirst u hu))
  | case4 candidate used rest _ _ ih =>
    obtain ⟨_, hrest⟩ := List.pairwise_cons.mp hsorted
    have hnext := le_alignUp (used.last + 1) hsize
    intro u hu
    rcases List.mem_cons.mp hu with rfl | hu
    · have hle := le_sweep hsize (alignUp (u.last + 1) size) rest
      exact .inl (by omega)
    · exact ih hrest u hu

/-- Sorted stretches begin one after the other. -/
theorem pairwise_first_sortBy (used : List Stretch) :
    (sortBy stretchLe used).Pairwise fun a b => a.first ≤ b.first := by
  have htrans : ∀ a b c : Stretch, stretchLe a b → stretchLe b c → stretchLe a c := by
    simp only [stretchLe, Bool.or_eq_true, Bool.and_eq_true, decide_eq_true_eq]
    omega
  have htotal : ∀ a b : Stretch, stretchLe a b || stretchLe b a := by
    simp only [stretchLe, Bool.or_eq_true, Bool.and_eq_true, decide_eq_true_eq]
    omega
  refine (pairwise_sortBy htrans htotal used).imp fun {a b} hle => ?_
  simp only [stretchLe, Bool.or_eq_true, Bool.and_eq_true, decide_eq_true_eq] at hle
  omega

/-- A block that a network can give to a new subnet. -/
structure Fits (n : Network) (c : Cidr) : Prop where
  /-- It has no host bits. -/
  aligned : c.IsAligned
  /-- It lies in the network. -/
  within : c.Within n.cidr
  /-- It has no address of a subnet. -/
  apart : ∀ s ∈ n.subnets, c.Disjoint s.cidr

/-- A free block fits, has the wanted size and has no address of the further stretches. -/
theorem freeBlock?_spec {n : Network} {bits : Nat} {further : List Stretch} {c : Cidr}
    (hfree : n.freeBlock? bits further = some c) :
    n.Fits c ∧ c.bits = bits ∧ ∀ u ∈ further, u.last < c.first ∨ c.last < u.first := by
  simp only [freeBlock?] at hfree
  split at hfree
  case isFalse => cases hfree
  case isTrue hend =>
    obtain ⟨hvalue, hbits, hcsize⟩ := Cidr.of_ofNat? hfree
    have hsize : 0 < Cidr.sizeOf bits := Cidr.sizeOf_pos bits
    have halign := le_alignUp n.cidr.first hsize
    have hplace := le_sweep hsize (alignUp n.cidr.first (Cidr.sizeOf bits))
      (sortBy stretchLe (n.subnets.map (fun s => s.cidr.stretch) ++ further))
    have havoids := sweep_avoids hsize (alignUp n.cidr.first (Cidr.sizeOf bits))
      (pairwise_first_sortBy (n.subnets.map (fun s => s.cidr.stretch) ++ further))
    have hdvd : c.size ∣ c.address.value := by
      rw [hvalue, hcsize]
      exact dvd_sweep _ (dvd_alignUp _ _)
    have hfirst := Cidr.first_eq_of_dvd hdvd
    have hlast : c.last = c.address.value + Cidr.sizeOf bits - 1 := by
      simp only [Cidr.last, hfirst, hcsize]
    have hclear : ∀ u ∈ n.subnets.map (fun s => s.cidr.stretch) ++ further,
        u.last < c.first ∨ c.last < u.first := by
      intro u hu
      have hu' := havoids u ((sortBy_perm _ _).mem_iff.mpr hu)
      omega
    refine ⟨⟨Cidr.isAligned_iff_first_eq.mpr hfirst, ?_, fun s hs => ?_⟩, hbits, fun u hu => ?_⟩
    · rw [Cidr.within_iff]
      omega
    · have hs' : s.cidr.stretch ∈ n.subnets.map (fun s => s.cidr.stretch) ++ further :=
        List.mem_append_left _ (List.mem_map_of_mem hs)
      exact Cidr.disjoint_iff.mpr (hclear _ hs').symm
    · exact hclear u (List.mem_append_right _ hu)

/-- A network gives subnets of new names as long as it is not sealed. -/
theorem checkCanCarve_eq_ok {n : Network} {name : String} :
    n.checkCanCarve name = .ok () ↔ n.isSealed = false ∧ name ∉ n.subnetNames := by
  unfold checkCanCarve
  split
  · next hsealed => simp [hsealed]
  · next hopen =>
    split
    · next htaken =>
      have hmem : name ∈ n.subnetNames := by simpa [subnetNames] using htaken
      simp [hmem]
    · next hnew =>
      have hmem : name ∉ n.subnetNames := by simpa [subnetNames] using hnew
      simpa [hmem] using hopen

/-- A new subnet of a network: its name is new, its block fits, and nothing is reserved. -/
structure Carved (n : Network) (name : String) (vlan : UInt16) (s : Subnet) : Prop where
  /-- The network has no subnet of the name. -/
  isNew : name ∉ n.subnetNames
  /-- The block can be given to a new subnet. -/
  fits : n.Fits s.cidr
  /-- Apart from its full name the subnet is as it is made for the block. -/
  created : s = { Subnet.create name s.cidr vlan with fullName := s.fullName }

/-- A new subnet is given its full name afterwards. -/
theorem Carved.setFullName {n : Network} {name : String} {vlan : UInt16} {s : Subnet}
    (hcarved : n.Carved name vlan s) (fullName : String) :
    n.Carved name vlan { s with fullName := fullName } where
  isNew := hcarved.isNew
  fits := hcarved.fits
  created := congrArg (fun t : Subnet => { t with fullName := fullName }) hcarved.created

/-- A block can be given without its host bits exactly if it lies in the network and has no
address of a subnet. -/
theorem fits_dropHost_iff {n : Network} {c : Cidr} :
    n.Fits c.dropHost ↔ c.Within n.cidr ∧ ∀ s ∈ n.subnets, c.Disjoint s.cidr := by
  constructor
  · intro hfits
    exact ⟨Cidr.within_dropHost_iff.mp hfits.within,
      fun s hs => Cidr.disjoint_dropHost_iff.mp (hfits.apart s hs)⟩
  · rintro ⟨hwithin, hapart⟩
    exact ⟨c.isAligned_dropHost, Cidr.within_dropHost_iff.mpr hwithin,
      fun s hs => Cidr.disjoint_dropHost_iff.mpr (hapart s hs)⟩

/-- A size can be carved when its name and the size itself can be, and when there is a free
block. The lowest such block is the new subnet's. -/
theorem carve_eq_ok {n : Network} {bits : Nat} {name : String} {vlan : UInt16} {s : Subnet} :
    n.carve bits name vlan = .ok s ↔
      n.checkCanCarve name = .ok () ∧ n.checkBits bits = .ok () ∧
        ∃ c, n.freeBlock? bits [] = some c ∧ s = .create name c vlan := by
  constructor
  · intro hcarve
    obtain ⟨_, hcan, hrest⟩ := bind_eq_ok.mp hcarve
    obtain ⟨_, hbits, hrest⟩ := bind_eq_ok.mp hrest
    split at hrest
    · next c hfree => exact ⟨hcan, hbits, c, hfree, (pure_eq_ok.mp hrest).symm⟩
    · exact absurd hrest throw_ne_ok
  · rintro ⟨hcan, hbits, c, hfree, rfl⟩
    refine bind_eq_ok.mpr ⟨(), hcan, bind_eq_ok.mpr ⟨(), hbits, ?_⟩⟩
    rw [hfree]
    rfl

/-- A chosen block can be carved when its name can be and when the block fits. -/
theorem carveAt_eq_ok {n : Network} {c : Cidr} {name : String} {vlan : UInt16} {s : Subnet} :
    n.carveAt c name vlan = .ok s ↔
      n.checkCanCarve name = .ok () ∧ n.Fits c.dropHost ∧
        s = .create name c.dropHost vlan := by
  have hinside : (c.dropHost.first < n.cidr.first || n.cidr.last < c.dropHost.last) = true ↔
      ¬c.dropHost.Within n.cidr := by
    rw [Cidr.within_iff]
    simp only [Bool.or_eq_true, decide_eq_true_eq]
    omega
  have hfree : (n.subnets.find? fun t => c.dropHost.overlaps t.cidr) = none ↔
      ∀ t ∈ n.subnets, c.dropHost.Disjoint t.cidr := by
    simp only [List.find?_eq_none, Bool.not_eq_true, Cidr.overlaps_eq_false_iff]
  constructor
  · intro hcarve
    obtain ⟨_, hcan, hrest⟩ := bind_eq_ok.mp hcarve
    dsimp only at hrest
    split at hrest
    · exact absurd hrest throw_ne_ok
    next hwithin =>
    split at hrest
    · exact absurd hrest throw_ne_ok
    next hapart =>
    rw [hinside, not_not] at hwithin
    exact ⟨hcan, ⟨c.isAligned_dropHost, hwithin, hfree.mp hapart⟩, (pure_eq_ok.mp hrest).symm⟩
  · rintro ⟨hcan, hfits, rfl⟩
    refine bind_eq_ok.mpr ⟨(), hcan, ?_⟩
    dsimp only
    rw [if_neg (hinside.not.mpr (not_not.mpr hfits.within)), hfree.mpr hfits.apart]
    rfl

/-- Carving a size gives a new subnet on the lowest free block of that size. -/
theorem carve_spec {n : Network} {bits : Nat} {name : String} {vlan : UInt16} {s : Subnet}
    (hcarve : n.carve bits name vlan = .ok s) :
    n.Carved name vlan s ∧ n.freeBlock? bits [] = some s.cidr := by
  obtain ⟨hcan, _, c, hfree, rfl⟩ := carve_eq_ok.mp hcarve
  exact ⟨⟨(checkCanCarve_eq_ok.mp hcan).2, (freeBlock?_spec hfree).1, rfl⟩, hfree⟩

/-- Carving a chosen block gives a new subnet on that block. -/
theorem carveAt_spec {n : Network} {c : Cidr} {name : String} {vlan : UInt16} {s : Subnet}
    (hcarve : n.carveAt c name vlan = .ok s) :
    n.Carved name vlan s ∧ s.cidr = c.dropHost := by
  obtain ⟨hcan, hfits, rfl⟩ := carveAt_eq_ok.mp hcarve
  exact ⟨⟨(checkCanCarve_eq_ok.mp hcan).2, hfits, rfl⟩, rfl⟩

/-- The largest block is carved as a block of one of the sizes that are tried. -/
theorem exists_carve_of_carveBiggest {n : Network} {maxBits : Nat} {name : String}
    {vlan : UInt16} {s : Subnet} (hcarve : n.carveBiggest maxBits name vlan = .ok s) :
    ∃ bits, n.carve bits name vlan = .ok s := by
  obtain ⟨_, _, hrest⟩ := bind_eq_ok.mp hcarve
  obtain ⟨_, _, hrest⟩ := bind_eq_ok.mp hrest
  dsimp only at hrest
  split at hrest
  · next bits _ => exact ⟨bits, hrest⟩
  · exact absurd hrest throw_ne_ok

/-- Carving the largest block gives a new subnet. -/
theorem carveBiggest_spec {n : Network} {maxBits : Nat} {name : String} {vlan : UInt16}
    {s : Subnet} (hcarve : n.carveBiggest maxBits name vlan = .ok s) :
    n.Carved name vlan s := by
  obtain ⟨_, hsize⟩ := exists_carve_of_carveBiggest hcarve
  exact (carve_spec hsize).1

/-- Carving for a cabinet gives a new subnet under the cabinet's name. -/
theorem carveAround_spec {n : Network} {bits : Nat} {overrides : Option Overrides}
    {pinned : List Stretch} {d : Cabinet.Detail} {vlan : UInt16} {s : Subnet}
    (hcarve : n.carveAround bits overrides pinned d vlan = .ok s) :
    n.Carved (cabinetSubnetName d) vlan s := by
  unfold carveAround at hcarve
  split at hcarve
  · exact (carveAt_spec hcarve).1
  · obtain ⟨_, hcan, hrest⟩ := bind_eq_ok.mp hcarve
    split at hrest
    · next c hfree =>
      obtain rfl := pure_eq_ok.mp hrest
      exact ⟨(checkCanCarve_eq_ok.mp hcan).2, (freeBlock?_spec hfree).1, rfl⟩
    · exact absurd hrest throw_ne_ok

/-- The subnet of a cabinet is a new one on the VLAN that the cabinet gets. -/
theorem carveCabinet_spec {n : Network} {bits : Nat} {overrides : Option Overrides}
    {pinned : List Stretch} {place : Nat} {d : Cabinet.Detail} {s : Subnet}
    (hcarve : n.carveCabinet bits overrides pinned place d = .ok s) :
    ∃ vlan, n.cabinetVlan overrides place d = .ok vlan ∧
      n.Carved (cabinetSubnetName d) vlan s := by
  obtain ⟨vlan, hvlan, hrest⟩ := bind_eq_ok.mp hcarve
  obtain ⟨made, hmade, hrest⟩ := bind_eq_ok.mp hrest
  obtain rfl := pure_eq_ok.mp hrest
  exact ⟨vlan, hvlan, (carveAround_spec hmade).setFullName _⟩

/-! ### Faults -/

section

variable {blames : AddressError → Prop} {n : Network}

/-- A name cannot be carved because of the seal or because it is taken. -/
theorem failsOnly_checkCanCarve {name : String} (hsealed : blames (.isSealed n.name))
    (htaken : blames (.duplicateSubnet n.name name)) :
    FailsOnly blames (n.checkCanCarve name) := by
  unfold checkCanCarve
  split
  · exact failsOnly_error hsealed
  · split
    · exact failsOnly_error htaken
    · exact failsOnly_ok ()

/-- A size cannot be carved because of itself. -/
theorem failsOnly_checkBits {bits : Nat}
    (hsize : blames (.sizeOutOfRange n.name n.cidr bits)) :
    FailsOnly blames (n.checkBits bits) := by
  unfold checkBits
  split
  · exact failsOnly_error hsize
  · exact failsOnly_ok ()

/-- A cabinet has no VLAN because the range has none for it. -/
theorem failsOnly_cabinetVlan {overrides : Option Overrides} {place : Nat} {d : Cabinet.Detail}
    (hvlan : blames (.vlanRangeExhausted n.name n.vlanRange.first n.vlanRange.last
      (cabinetSubnetName d))) :
    FailsOnly blames (n.cabinetVlan overrides place d) := by
  unfold cabinetVlan
  split
  · exact failsOnly_ok _
  · split
    · exact failsOnly_ok _
    · exact failsOnly_error hvlan

end

end SitePlan.Network
