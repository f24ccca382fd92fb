import SitePlan.Proofs.Network.FirstFit

/-!
# Networks divided among cabinets

Cabinets get their subnets one after another. A cabinet that must get a block gets it, and the
others get blocks away from all blocks that cabinets must get, also from those that are not carved
yet. What each cabinet gets is said once here, and then of the whole run, whether it comes to its
end or stops at a fault.
-/

namespace SitePlan

/-- The VLAN at a place of a range is counted from the first one and not beyond the last one. -/
theorem VlanRange.toNat_of_nth? {r : VlanRange} {place : Nat} {vlan : UInt16}
    (hvlan : r.nth? place = some vlan) :
    vlan.toNat = r.first.toNat + place ∧ vlan.toNat ≤ r.last.toNat := by
  unfold nth? at hvlan
  split at hvlan
  · next hle =>
    cases hvlan
    have hlast := r.last.toNat_lt
    have hplace : place.toUInt16.toNat = place :=
      UInt16.toNat_ofNat_of_lt (show place < 65536 by omega)
    rw [UInt16.toNat_add, hplace, Nat.mod_eq_of_lt (by omega)]
    exact ⟨rfl, hle⟩
  · cases hvlan

namespace Network

open Outcome

/-- Subnets of different cabinets have different names. -/
theorem cabinetSubnetName_inj {d e : Cabinet.Detail} :
    cabinetSubnetName d = cabinetSubnetName e ↔ d.id = e.id := by
  refine ⟨fun h => ?_, fun h => by rw [cabinetSubnetName, h, cabinetSubnetName]⟩
  have hdigits : Nat.toDigits 10 d.id.toNat = Nat.toDigits 10 e.id.toNat := by
    simpa [cabinetSubnetName, Nat.toString_eq_ofList_toDigits] using congrArg String.toList h
  have hnumbers := congrArg (fun digits => Nat.ofDigitChars 10 digits 0) hdigits
  simpa [Nat.ofDigitChars_ten_toDigits, UInt32.toNat_inj] using hnumbers

/-- The cabinet must get the block in a network with these overrides. -/
def Pins (overrides : Option Overrides) (d : Cabinet.Detail) (pin : Cidr) : Prop :=
  overrides.bind (·.subnet? d) = some pin

/-- A cabinet that must get no block has none to get. -/
theorem forall_not_pins_iff {overrides : Option Overrides} {d : Cabinet.Detail} :
    (∀ pin, ¬Pins overrides d pin) ↔ overrides.bind (·.subnet? d) = none :=
  Option.eq_none_iff_forall_ne_some.symm

/-! ### Blocks away from those that cabinets must get -/

/-- The stretches that the cabinets must get. -/
def pinnedStretches (overrides : Option Overrides) (cabinets : List Cabinet.Detail) :
    List Stretch :=
  cabinets.filterMap fun d => (overrides.bind (·.subnet? d)).map Cidr.stretch

/-- A block of a size that can be given to a cabinet: it has no address of a subnet and none of
the blocks that cabinets must get. -/
structure IsOpenBlock (n : Network) (bits : Nat) (overrides : Option Overrides)
    (cabinets : List Cabinet.Detail) (c : Cidr) : Prop where
  /-- The block can be given to a new subnet. -/
  fits : n.Fits c
  /-- It has the size. -/
  bits_eq : c.bits = bits
  /-- It has no address of a block that a cabinet must get. -/
  clear : ∀ d ∈ cabinets, ∀ pin, Pins overrides d pin → c.Disjoint pin

/-- Away from the stretches that cabinets must get the vacant blocks are the open ones. -/
theorem vacant_pinnedStretches_iff {n : Network} {bits : Nat} {overrides : Option Overrides}
    {cabinets : List Cabinet.Detail} {c : Cidr} :
    n.Vacant bits (pinnedStretches overrides cabinets) c ↔
      n.IsOpenBlock bits overrides cabinets c := by
  have hstretches : (∀ u ∈ pinnedStretches overrides cabinets,
      u.last < c.first ∨ c.last < u.first) ↔
        ∀ d ∈ cabinets, ∀ pin, Pins overrides d pin → c.Disjoint pin := by
    simp only [pinnedStretches, List.mem_filterMap, Option.map_eq_some_iff]
    constructor
    · intro hclear d hd pin hpin
      exact Cidr.disjoint_iff.mpr (hclear pin.stretch ⟨d, hd, pin, hpin, rfl⟩).symm
    · rintro hclear u ⟨d, hd, pin, hpin, rfl⟩
      exact (Cidr.disjoint_iff.mp (hclear d hd pin hpin)).symm
  constructor
  · intro hc
    exact ⟨hc.fits, hc.bits_eq, hstretches.mp hc.clear⟩
  · intro hc
    exact ⟨hc.fits, hc.bits_eq, hstretches.mpr hc.clear⟩

/-! ### What a cabinet gets -/

/-- The subnet that a cabinet gets in a network among these cabinets, as the one at this place in
the order of IDs. -/
structure IsCabinetSubnet (n : Network) (bits : Nat) (overrides : Option Overrides)
    (cabinets : List Cabinet.Detail) (place : Nat) (d : Cabinet.Detail) (s : Subnet) : Prop where
  /-- It is named after the cabinet. -/
  name_eq : s.name = s!"cabinet_{d.id.toNat}"
  /-- Its block could be given to a new subnet. -/
  fits : n.Fits s.cidr
  /-- A VLAN that the cabinet must get is its own. -/
  pinnedVlan : ∀ vlan, overrides.bind (·.vlan? d) = some vlan → s.vlan = vlan
  /-- Another VLAN is counted from the first one of the network, up to the last one. -/
  countedVlan : overrides.bind (·.vlan? d) = none →
    s.vlan.toNat = n.vlanRange.first.toNat + place ∧ s.vlan.toNat ≤ n.vlanRange.last.toNat
  /-- A block that the cabinet must get is its own, without the host bits. -/
  pinnedBlock : ∀ pin, Pins overrides d pin → s.cidr = pin.dropHost
  /-- Another block has the size, and no address of a block that a cabinet must get. -/
  freeBlock : (∀ pin, ¬Pins overrides d pin) → n.IsOpenBlock bits overrides cabinets s.cidr
  /-- Apart from its full name it is as it is made for the block. -/
  created : s = { Subnet.create s.name s.cidr s.vlan with
    fullName := s!"{n.fullName} Cabinet {d.id.toNat}" }

variable {bits : Nat} {overrides : Option Overrides} {cabinets : List Cabinet.Detail}

/-- What fits beside one subnet more fits without it. -/
theorem Fits.of_push {n : Network} {s : Subnet} {c : Cidr} (hfits : (n.push s).Fits c) :
    n.Fits c where
  aligned := hfits.aligned
  within := hfits.within
  apart := fun t ht => hfits.apart t (List.mem_append_left _ ht)

/-- A subnet that a cabinet gets beside one subnet more it could get without it. -/
theorem IsCabinetSubnet.of_push {n : Network} {t s : Subnet} {place : Nat} {d : Cabinet.Detail}
    (hs : (n.push t).IsCabinetSubnet bits overrides cabinets place d s) :
    n.IsCabinetSubnet bits overrides cabinets place d s where
  name_eq := hs.name_eq
  fits := hs.fits.of_push
  pinnedVlan := hs.pinnedVlan
  countedVlan := hs.countedVlan
  pinnedBlock := hs.pinnedBlock
  freeBlock := fun hfree =>
    ⟨hs.fits.of_push, (hs.freeBlock hfree).bits_eq, (hs.freeBlock hfree).clear⟩
  created := hs.created

/-- The VLAN of a cabinet is the one that it must get, or else the one at its place. -/
theorem cabinetVlan_spec {n : Network} {place : Nat} {d : Cabinet.Detail} {vlan : UInt16}
    (hvlan : n.cabinetVlan overrides place d = .ok vlan) :
    (∀ own, overrides.bind (·.vlan? d) = some own → vlan = own) ∧
      (overrides.bind (·.vlan? d) = none →
        vlan.toNat = n.vlanRange.first.toNat + place ∧
          vlan.toNat ≤ n.vlanRange.last.toNat) := by
  unfold cabinetVlan at hvlan
  split at hvlan
  · next own hown =>
    cases hvlan
    rw [hown]
    exact ⟨fun _ => Option.some.inj, by simp⟩
  · next hnone =>
    split at hvlan
    · next hplace =>
      cases hvlan
      rw [hnone]
      exact ⟨by simp, fun _ => VlanRange.toNat_of_nth? hplace⟩
    · cases hvlan

/-- The block of a cabinet is the one that it must get, or else an open one. -/
theorem block_of_carveAround {n : Network} {d : Cabinet.Detail} {vlan : UInt16} {s : Subnet}
    (hcarve : n.carveAround bits overrides (pinnedStretches overrides cabinets) d vlan = .ok s) :
    (∀ pin, Pins overrides d pin → s.cidr = pin.dropHost) ∧
      ((∀ pin, ¬Pins overrides d pin) → n.IsOpenBlock bits overrides cabinets s.cidr) := by
  unfold carveAround at hcarve
  split at hcarve
  · next pin hpin =>
    refine ⟨fun own hown => ?_, fun hnone => absurd hpin (hnone pin)⟩
    obtain rfl := Option.some.inj (hpin.symm.trans hown)
    exact (carveAt_spec hcarve).2
  · next hnone =>
    refine ⟨fun pin hpin => absurd hpin (forall_not_pins_iff.mpr hnone pin), fun _ => ?_⟩
    obtain ⟨_, _, hcarve⟩ := bind_eq_ok.mp hcarve
    split at hcarve
    · next c hfound =>
      obtain rfl := pure_eq_ok.mp hcarve
      exact vacant_pinnedStretches_iff.mp (freeBlock?_eq_some_iff.mp hfound).1
    · exact absurd hcarve throw_ne_ok

/-- A cabinet gets the subnet that is its own. -/
theorem isCabinetSubnet_of_carveCabinet {n : Network} {place : Nat} {d : Cabinet.Detail}
    {s : Subnet}
    (hcarve : n.carveCabinet bits overrides (pinnedStretches overrides cabinets) place d = .ok s) :
    n.IsCabinetSubnet bits overrides cabinets place d s := by
  obtain ⟨vlan, hvlan, hcarve⟩ := bind_eq_ok.mp hcarve
  obtain ⟨made, hmade, hcarve⟩ := bind_eq_ok.mp hcarve
  obtain rfl := pure_eq_ok.mp hcarve
  obtain ⟨hown, hcounted⟩ := cabinetVlan_spec hvlan
  obtain ⟨hpinned, hfree⟩ := block_of_carveAround hmade
  have hcarved := carveAround_spec hmade
  have hname : made.name = cabinetSubnetName d := hcarved.name_eq
  have hmadeVlan : made.vlan = vlan := congrArg Subnet.vlan hcarved.created
  refine ⟨hname, hcarved.fits, ?_, ?_, hpinned, hfree, ?_⟩
  · exact fun own hpin => hmadeVlan.trans (hown own hpin)
  · exact fun hnone => hmadeVlan ▸ hcounted hnone
  · rw [← hmadeVlan, ← hname] at hcarved
    exact (hcarved.setFullName s!"{n.fullName} Cabinet {d.id.toNat}").created

/-! ### What all cabinets get -/

/-- The cabinets have got these subnets, the first cabinet as the one at the given place. -/
def Serves (n : Network) (bits : Nat) (overrides : Option Overrides)
    (cabinets : List Cabinet.Detail) (place : Nat) (served : List Cabinet.Detail)
    (added : List Subnet) : Prop :=
  List.Forall₂ (fun d s => n.IsCabinetSubnet bits overrides cabinets d.2 d.1 s)
    (served.zipIdx place) added

/-- The subnets that cabinets have got are named after them, in their order. -/
theorem Serves.map_name {n : Network} {place : Nat} {served : List Cabinet.Detail}
    {added : List Subnet} (hserved : n.Serves bits overrides cabinets place served added) :
    added.map Subnet.name = served.map cabinetSubnetName := by
  have hnames : (served.zipIdx place).map (cabinetSubnetName ∘ Prod.fst) =
      added.map Subnet.name :=
    map_eq_map_of_forall₂ (hserved.imp fun _ _ hs => hs.name_eq.symm)
  calc added.map Subnet.name
      = (served.zipIdx place).map (cabinetSubnetName ∘ Prod.fst) := hnames.symm
    _ = ((served.zipIdx place).map Prod.fst).map cabinetSubnetName := List.map_map.symm
    _ = served.map cabinetSubnetName := by rw [List.zipIdx_map_fst]

/-- How giving subnets to cabinets ends: all of them are served, or one of them meets a fault. -/
inductive CabinetRun (n : Network) (bits : Nat) (overrides : Option Overrides)
    (cabinets : List Cabinet.Detail) (place : Nat) :
    List Cabinet.Detail → Except AddressError Unit × Network → Prop
  | done {served : List Cabinet.Detail} {added : List Subnet} :
      n.Serves bits overrides cabinets place served added →
      CabinetRun n bits overrides cabinets place served
        (.ok (), { n with subnets := n.subnets ++ added })
  | stopped {all served later : List Cabinet.Detail} {d : Cabinet.Detail} {added : List Subnet}
      {fault : AddressError} :
      all = served ++ d :: later →
      n.Serves bits overrides cabinets place served added →
      carveCabinet { n with subnets := n.subnets ++ added } bits overrides
        (pinnedStretches overrides cabinets) (place + served.length) d = .error fault →
      CabinetRun n bits overrides cabinets place all
        (.error fault, { n with subnets := n.subnets ++ added })

/-- A cabinet that got its subnet is the first one served in the run that follows. -/
theorem CabinetRun.cons {n : Network} {place : Nat} {d : Cabinet.Detail}
    {rest : List Cabinet.Detail} {s : Subnet} {result : Except AddressError Unit × Network}
    (hs : n.IsCabinetSubnet bits overrides cabinets place d s)
    (hrun : (n.push s).CabinetRun bits overrides cabinets (place + 1) rest result) :
    n.CabinetRun bits overrides cabinets place (d :: rest) result := by
  have hserves : ∀ {served added},
      (n.push s).Serves bits overrides cabinets (place + 1) served added →
        n.Serves bits overrides cabinets place (d :: served) (s :: added) := by
    intro served added hserved
    rw [Serves, List.zipIdx_cons]
    exact .cons hs (hserved.imp fun _ _ ht => ht.of_push)
  have hgrown : ∀ added : List Subnet,
      ({ n.push s with subnets := (n.push s).subnets ++ added } : Network) =
        { n with subnets := n.subnets ++ s :: added } := by
    intro added
    simp [Network.push]
  cases hrun with
  | @done added hserved =>
    rw [hgrown]
    exact .done (hserves hserved)
  | @stopped served later e added _ hall hserved hfault =>
    rw [hgrown] at hfault ⊢
    have hall' : d :: rest = (d :: served) ++ e :: later := congrArg (d :: ·) hall
    refine .stopped hall' (hserves hserved) ?_
    rw [List.length_cons, Nat.add_comm served.length 1, ← Nat.add_assoc]
    exact hfault

/-- Giving subnets to cabinets serves them in their order, up to the first fault. -/
theorem cabinetRun_carveCabinets (n : Network) (place : Nat) (served : List Cabinet.Detail) :
    n.CabinetRun bits overrides cabinets place served
      (carveCabinets bits overrides (pinnedStretches overrides cabinets) n place served) := by
  have hnone : ∀ n : Network, ({ n with subnets := n.subnets ++ [] } : Network) = n := by
    intro n
    rw [List.append_nil]
  induction served generalizing n place with
  | nil =>
    have hdone : n.CabinetRun bits overrides cabinets place []
        (.ok (), { n with subnets := n.subnets ++ [] }) := .done .nil
    rwa [hnone] at hdone
  | cons d rest ih =>
    unfold carveCabinets
    split
    · next fault hfault =>
      have hstopped : n.CabinetRun bits overrides cabinets place (d :: rest)
          (.error fault, { n with subnets := n.subnets ++ [] }) :=
        .stopped (List.nil_append (d :: rest)).symm .nil ((hnone n).symm ▸ hfault)
      rwa [hnone] at hstopped
    · next s hcarve =>
      exact (ih (n.push s) (place + 1)).cons (isCabinetSubnet_of_carveCabinet hcarve)

/-- The accepted cabinets in the order in which they are served, which is that of their IDs. -/
def servedCabinets (accepts : Cabinet.Filter) (groups : List Cabinet.Group) :
    List Cabinet.Detail :=
  sortBy (fun d e => d.id ≤ e.id) (Cabinet.select accepts groups)

/-- A cabinet is served if it is accepted. -/
theorem servedCabinets_perm (accepts : Cabinet.Filter) (groups : List Cabinet.Group) :
    (servedCabinets accepts groups).Perm (Cabinet.select accepts groups) := sortBy_perm _ _

/-- A network refuses to be divided among cabinets, or it serves them. -/
theorem addCabinetSubnets_cases (n : Network) (groups : List Cabinet.Group) (bits : Nat)
    (accepts : Cabinet.Filter) (overrides : Option Overrides) :
    n.addCabinetSubnets groups bits accepts overrides = (.error (.isSealed n.name), n) ∨
    n.addCabinetSubnets groups bits accepts overrides =
      (.error (.sizeOutOfRange n.name n.cidr bits), n) ∨
    n.CabinetRun bits overrides (servedCabinets accepts groups) 0 (servedCabinets accepts groups)
      (n.addCabinetSubnets groups bits accepts overrides) := by
  unfold addCabinetSubnets
  split
  · exact .inl rfl
  · split
    · next fault hfault =>
      have honly : FailsOnly (· = .sizeOutOfRange n.name n.cidr bits) (n.checkBits bits) :=
        failsOnly_checkBits rfl
      obtain rfl := honly fault hfault
      exact .inr (.inl rfl)
    · exact .inr (.inr (cabinetRun_carveCabinets n 0 (servedCabinets accepts groups)))

/-- A network that was divided among cabinets has the subnets that all of them got. -/
theorem exists_serves {n m : Network} {groups : List Cabinet.Group} {bits : Nat}
    {accepts : Cabinet.Filter} {overrides : Option Overrides}
    (hok : n.addCabinetSubnets groups bits accepts overrides = (.ok (), m)) :
    ∃ added, m = { n with subnets := n.subnets ++ added } ∧
      n.Serves bits overrides (servedCabinets accepts groups) 0
        (servedCabinets accepts groups) added := by
  have hcases := n.addCabinetSubnets_cases groups bits accepts overrides
  rw [hok] at hcases
  rcases hcases with hsealed | hsize | hrun
  · cases hsealed
  · cases hsize
  · cases hrun with
    | done hserved => exact ⟨_, rfl, hserved⟩

end Network

end SitePlan
