import SitePlan.Proofs.Network.CabinetOrder

/-!
# VLANs of cabinets

A cabinet that must get a VLAN gets it. The VLAN of any other cabinet is counted from the first one
of the network, by how many accepted cabinets have smaller IDs, whatever VLANs cabinets must get.
So no two counted VLANs are equal, and a counted VLAN is that of another subnet exactly if the
cabinet of this one must get the very VLAN that is counted.
-/

namespace SitePlan.Network

open Outcome

/-- The cabinet must get the VLAN in a network with these overrides. -/
def PinsVlan (overrides : Option Overrides) (d : Cabinet.Detail) (vlan : UInt16) : Prop :=
  overrides.bind (·.vlan? d) = some vlan

/-- The cabinet must get no VLAN in a network with these overrides, so its VLAN is counted. -/
def IsCounted (overrides : Option Overrides) (d : Cabinet.Detail) : Prop :=
  overrides.bind (·.vlan? d) = none

/-- A cabinet must get a VLAN, or its VLAN is counted. -/
theorem isCounted_or_pinsVlan (overrides : Option Overrides) (d : Cabinet.Detail) :
    IsCounted overrides d ∨ ∃ vlan, PinsVlan overrides d vlan := by
  unfold IsCounted PinsVlan
  cases overrides.bind (·.vlan? d) with
  | none => exact .inl rfl
  | some vlan => exact .inr ⟨vlan, rfl⟩

/-! ### Places in the order of IDs -/

/-- The place of a cabinet among these in the order of IDs: how many of them have smaller ones. -/
def placeById (cabinets : List Cabinet.Detail) (d : Cabinet.Detail) : Nat :=
  cabinets.countP fun e => e.id < d.id

/-- In a list in the order of IDs, none of them twice, a cabinet stands at its place. -/
theorem placeById_of_getElem? {cabinets : List Cabinet.Detail} {place : Nat} {d : Cabinet.Detail}
    (hordered : cabinets.Pairwise fun d e => d.id < e.id) (hd : cabinets[place]? = some d) :
    placeById cabinets d = place := by
  obtain ⟨hlt, hget⟩ := List.getElem?_eq_some_iff.mp hd
  have hsplit : cabinets = cabinets.take place ++ d :: cabinets.drop (place + 1) := by
    rw [← hget, List.getElem_cons_drop, List.take_append_drop]
  rw [hsplit, List.pairwise_append, List.pairwise_cons] at hordered
  obtain ⟨_, ⟨hafter, _⟩, hbefore⟩ := hordered
  have hsmaller : (cabinets.take place).countP (fun e => e.id < d.id) = place := by
    have hall : ∀ e ∈ cabinets.take place, decide (e.id < d.id) = true := fun e he =>
      decide_eq_true (hbefore e he d List.mem_cons_self)
    rw [List.countP_eq_length.mpr hall, List.length_take_of_le (Nat.le_of_lt hlt)]
  have hlarger : (d :: cabinets.drop (place + 1)).countP (fun e => e.id < d.id) = 0 := by
    refine List.countP_eq_zero.mpr fun e he => ?_
    rw [decide_eq_true_eq, UInt32.not_lt]
    rcases List.mem_cons.mp he with rfl | hlater
    · exact UInt32.le_refl _
    · exact UInt32.le_of_lt (hafter e hlater)
  rw [placeById, hsplit, List.countP_append, hsmaller, hlarger, Nat.add_zero]

/-- The places of cabinets do not depend on the order in which these are listed. -/
theorem placeById_congr {cabinets cabinets' : List Cabinet.Detail}
    (hperm : cabinets.Perm cabinets') (d : Cabinet.Detail) :
    placeById cabinets d = placeById cabinets' d := hperm.countP_eq _

/-- In a list in the order of IDs, none of them twice, different cabinets have different places. -/
theorem eq_of_placeById_eq {cabinets : List Cabinet.Detail} {d e : Cabinet.Detail}
    (hordered : cabinets.Pairwise fun d e => d.id < e.id) (hd : d ∈ cabinets) (he : e ∈ cabinets)
    (hplace : placeById cabinets d = placeById cabinets e) : d = e := by
  obtain ⟨i, hi⟩ := List.mem_iff_getElem?.mp hd
  obtain ⟨j, hj⟩ := List.mem_iff_getElem?.mp he
  rw [placeById_of_getElem? hordered hi, placeById_of_getElem? hordered hj] at hplace
  rw [hplace, hj] at hi
  exact (Option.some.inj hi).symm

/-! ### What every cabinet gets -/

/-- The name and the VLAN of the subnet that a cabinet gets at a place in the order of IDs. -/
structure GetsVlan (n : Network) (overrides : Option Overrides) (place : Nat) (d : Cabinet.Detail)
    (s : Subnet) : Prop where
  /-- The subnet is named after the cabinet. -/
  name_eq : s.name = cabinetSubnetName d
  /-- A VLAN that the cabinet must get is its own. -/
  pinned : ∀ vlan, PinsVlan overrides d vlan → s.vlan = vlan
  /-- Another VLAN is counted from the first one of the network, up to the last one. -/
  counted : IsCounted overrides d →
    s.vlan.toNat = n.vlanRange.first.toNat + place ∧ s.vlan.toNat ≤ n.vlanRange.last.toNat

/-- No subnet of a cabinet that must get no VLAN has the VLAN of another subnet. -/
def CountedVlansApart (overrides : Option Overrides) (cabinets : List Cabinet.Detail)
    (subnets : List Subnet) : Prop :=
  ∀ d ∈ cabinets, IsCounted overrides d → ∀ s ∈ subnets, s.name = cabinetSubnetName d →
    ∀ t ∈ subnets, t.name ≠ s.name → t.vlan ≠ s.vlan

/-- A counted VLAN is that of the subnet of a cabinet at another place exactly if the cabinet must
get it. -/
theorem GetsVlan.vlan_eq_iff {n : Network} {overrides : Option Overrides} {place place' : Nat}
    {d e : Cabinet.Detail} {s t : Subnet} (hs : n.GetsVlan overrides place d s)
    (ht : n.GetsVlan overrides place' e t) (hd : IsCounted overrides d) (hplaces : place' ≠ place) :
    t.vlan = s.vlan ↔ PinsVlan overrides e s.vlan := by
  constructor
  · intro hvlan
    rcases isCounted_or_pinsVlan overrides e with he | ⟨vlan, he⟩
    · -- two counted VLANs are as far apart as the places
      have hsPlace := (hs.counted hd).1
      have htPlace := (ht.counted he).1
      rw [hvlan] at htPlace
      omega
    · rwa [← hvlan, ht.pinned vlan he]
  · exact ht.pinned s.vlan

section

variable {n m : Network} {groups : List Cabinet.Group} {bits : Nat} {accepts : Cabinet.Filter}
  {overrides : Option Overrides}

/-- Where a network without subnets could be divided among cabinets, no two of them have one ID. -/
theorem pairwise_id_lt_servedCabinets (hempty : n.subnets = [])
    (hok : n.addCabinetSubnets groups bits accepts overrides = (.ok (), m)) :
    (servedCabinets accepts groups).Pairwise fun d e => d.id < e.id := by
  have hgrown := grown_addCabinetSubnets n groups bits accepts overrides
  rw [hok] at hgrown
  have hnames := (hgrown.wellCarved (wellCarved_of_subnets_eq_nil hempty)).names
  obtain ⟨added, rfl, hserved⟩ := exists_serves hok
  rw [subnetNames, hempty, List.nil_append, hserved.map_name, List.Nodup,
    List.pairwise_map] at hnames
  refine ((pairwise_servedCabinets accepts groups).and hnames).imp ?_
  rintro d e ⟨hle, hname⟩
  exact UInt32.lt_of_le_of_ne hle fun hid => hname (cabinetSubnetName_inj.mpr hid)

/-- The subnets of a network that was divided among cabinets, and had none before, are those that
the accepted cabinets get, each at the place of its cabinet. -/
theorem getsVlan_of_addCabinetSubnets (hempty : n.subnets = [])
    (hok : n.addCabinetSubnets groups bits accepts overrides = (.ok (), m)) :
    let cabinets := Cabinet.select accepts groups
    (∀ d ∈ cabinets, ∃ s ∈ m.subnets, n.GetsVlan overrides (placeById cabinets d) d s) ∧
      ∀ s ∈ m.subnets, ∃ d ∈ cabinets, n.GetsVlan overrides (placeById cabinets d) d s := by
  intro cabinets
  have hperm := servedCabinets_perm accepts groups
  have hordered := pairwise_id_lt_servedCabinets hempty hok
  obtain ⟨added, rfl, hserved⟩ := exists_serves hok
  have hsubnet : ∀ pair ∈ (servedCabinets accepts groups).zipIdx, ∀ s,
      n.IsCabinetSubnet bits overrides (servedCabinets accepts groups) pair.2 pair.1 s →
        pair.1 ∈ cabinets ∧ n.GetsVlan overrides (placeById cabinets pair.1) pair.1 s := by
    rintro ⟨d, place⟩ hpair s hs
    have hget := List.mem_zipIdx_iff_getElem?.mp hpair
    refine ⟨hperm.mem_iff.mp (List.mem_of_getElem? hget), ?_⟩
    rw [← placeById_congr hperm, placeById_of_getElem? hordered hget]
    exact ⟨hs.name_eq, hs.pinnedVlan, hs.countedVlan⟩
  rw [hempty, List.nil_append]
  constructor
  · intro d hd
    obtain ⟨place, hget⟩ := List.mem_iff_getElem?.mp (hperm.mem_iff.mpr hd)
    have hpair : (d, place) ∈ (servedCabinets accepts groups).zipIdx :=
      List.mem_zipIdx_iff_getElem?.mpr hget
    obtain ⟨s, hs, hgets⟩ := exists_of_forall₂ hserved.flip hpair
    exact ⟨s, hs, (hsubnet _ hpair s hgets).2⟩
  · intro s hs
    obtain ⟨pair, hpair, hgets⟩ := exists_of_forall₂ hserved hs
    exact ⟨pair.1, hsubnet pair hpair s hgets⟩

/-- Accepted cabinets among which a network without subnets could be divided are told apart by their
places. -/
theorem eq_of_placeById_eq_of_addCabinetSubnets (hempty : n.subnets = [])
    (hok : n.addCabinetSubnets groups bits accepts overrides = (.ok (), m)) {d e : Cabinet.Detail}
    (hd : d ∈ Cabinet.select accepts groups) (he : e ∈ Cabinet.select accepts groups)
    (hplace : placeById (Cabinet.select accepts groups) d =
      placeById (Cabinet.select accepts groups) e) : d = e := by
  have hperm := servedCabinets_perm accepts groups
  rw [← placeById_congr hperm, ← placeById_congr hperm] at hplace
  exact eq_of_placeById_eq (pairwise_id_lt_servedCabinets hempty hok) (hperm.mem_iff.mpr hd)
    (hperm.mem_iff.mpr he) hplace

/-- Accepted cabinets among which a network without subnets could be divided are told apart by the
names of their subnets. -/
theorem eq_of_cabinetSubnetName_eq (hempty : n.subnets = [])
    (hok : n.addCabinetSubnets groups bits accepts overrides = (.ok (), m)) {d e : Cabinet.Detail}
    (hd : d ∈ Cabinet.select accepts groups) (he : e ∈ Cabinet.select accepts groups)
    (hname : cabinetSubnetName d = cabinetSubnetName e) : d = e := by
  refine eq_of_placeById_eq_of_addCabinetSubnets hempty hok hd he ?_
  rw [placeById, cabinetSubnetName_inj.mp hname, placeById]

/-- The VLAN that is counted for a cabinet is that of another subnet exactly if the cabinet of this
one must get it. -/
theorem exists_vlan_eq_iff (hempty : n.subnets = [])
    (hok : n.addCabinetSubnets groups bits accepts overrides = (.ok (), m)) {d : Cabinet.Detail}
    (hd : d ∈ Cabinet.select accepts groups) (hcounted : IsCounted overrides d) {s t : Subnet}
    (hs : n.GetsVlan overrides (placeById (Cabinet.select accepts groups) d) d s)
    (ht : t ∈ m.subnets) (hname : t.name ≠ s.name) :
    ∃ e ∈ Cabinet.select accepts groups,
      t.name = cabinetSubnetName e ∧ (t.vlan = s.vlan ↔ PinsVlan overrides e s.vlan) := by
  obtain ⟨e, he, hgets⟩ := (getsVlan_of_addCabinetSubnets hempty hok).2 t ht
  refine ⟨e, he, hgets.name_eq, hs.vlan_eq_iff hgets hcounted fun hplace => hname ?_⟩
  have hsame : e = d := eq_of_placeById_eq_of_addCabinetSubnets hempty hok he hd hplace
  rw [hgets.name_eq, hsame, hs.name_eq]

/-- Counted VLANs are those of no other subnets exactly if no accepted cabinet must get a VLAN that
is counted for another one. -/
theorem countedVlansApart_iff (hempty : n.subnets = [])
    (hok : n.addCabinetSubnets groups bits accepts overrides = (.ok (), m)) :
    let cabinets := Cabinet.select accepts groups
    CountedVlansApart overrides cabinets m.subnets ↔
      ∀ d ∈ cabinets, IsCounted overrides d → ∀ e ∈ cabinets, ∀ vlan, PinsVlan overrides e vlan →
        vlan.toNat ≠ n.vlanRange.first.toNat + placeById cabinets d := by
  intro cabinets
  obtain ⟨hgiven, htaken⟩ := getsVlan_of_addCabinetSubnets hempty hok
  constructor
  · intro hapart d hd hcounted e he vlan hpins hvlan
    obtain ⟨s, hs, hsGets⟩ := hgiven d hd
    obtain ⟨t, ht, htGets⟩ := hgiven e he
    have hsVlan : s.vlan = vlan :=
      UInt16.toNat_inj.mp ((hsGets.counted hcounted).1.trans hvlan.symm)
    have hne : t.name ≠ s.name := by
      intro hname
      have hsame : e = d := eq_of_cabinetSubnetName_eq hempty hok he hd
        (htGets.name_eq.symm.trans (hname.trans hsGets.name_eq))
      rw [hsame] at hpins
      cases hcounted.symm.trans hpins
    exact hapart d hd hcounted s hs hsGets.name_eq t ht hne
      ((htGets.pinned vlan hpins).trans hsVlan.symm)
  · intro hfree d hd hcounted s hs hname t ht hne hvlan
    obtain ⟨d', hd', hgets⟩ := htaken s hs
    have hsame : d' = d :=
      eq_of_cabinetSubnetName_eq hempty hok hd' hd (hgets.name_eq.symm.trans hname)
    rw [hsame] at hgets
    obtain ⟨e, he, _, hiff⟩ := exists_vlan_eq_iff hempty hok hd hcounted hgets ht hne
    exact hfree d hd hcounted e he s.vlan (hiff.mp hvlan) (hgets.counted hcounted).1

/-- VLANs in a network without subnets that was divided among cabinets. Each accepted cabinet has
its subnet. The VLAN of one that must get none is counted by how many accepted cabinets have smaller
IDs, and it is that of the subnet of another cabinet exactly if this one must get the very VLAN. So
counted VLANs are those of no other subnets exactly if no accepted cabinet must get a VLAN that is
counted for another one. -/
theorem countedVlans_apart_iff (hempty : n.subnets = [])
    (hok : n.addCabinetSubnets groups bits accepts overrides = (.ok (), m)) :
    let cabinets := Cabinet.select accepts groups
    (∀ d ∈ cabinets, ∃ s ∈ m.subnets, n.GetsVlan overrides (placeById cabinets d) d s ∧
      (IsCounted overrides d → ∀ t ∈ m.subnets, t.name ≠ s.name → ∃ e ∈ cabinets,
        t.name = cabinetSubnetName e ∧ (t.vlan = s.vlan ↔ PinsVlan overrides e s.vlan))) ∧
    (CountedVlansApart overrides cabinets m.subnets ↔
      ∀ d ∈ cabinets, IsCounted overrides d → ∀ e ∈ cabinets, ∀ vlan, PinsVlan overrides e vlan →
        vlan.toNat ≠ n.vlanRange.first.toNat + placeById cabinets d) := by
  intro cabinets
  refine ⟨fun d hd => ?_, countedVlansApart_iff hempty hok⟩
  obtain ⟨s, hs, hgets⟩ := (getsVlan_of_addCabinetSubnets hempty hok).1 d hd
  exact ⟨s, hs, hgets, fun hcounted _ ht => exists_vlan_eq_iff hempty hok hd hcounted hgets ht⟩

end

/-- A network of which nothing is carved yet. -/
def unusedNetwork : Network :=
  create "HMN_RVR" "River Compute Hardware Management Network" (.ofOctets 10 106 0 0 15)
    ⟨1513, 1769⟩ 9000 .ethernet

/-- Three racks, of which the second one must get a VLAN. -/
def pinnedRacks (vlan : UInt16) : List Cabinet.Group := [
  { kind := "river", details := [.ofId 3002, .ofId 3000, { id := 3001, hmnVlan := some vlan }] }]

/-- A rack that must get the VLAN that would be counted for its own place shares it with none. -/
theorem countedVlans_apart_iff_pinnedRacks :
    ∃ m, unusedNetwork.subnets = [] ∧
      unusedNetwork.addCabinetSubnets (pinnedRacks 1514) 22 (.ofKind "river") (some .hmn) =
        (.ok (), m) ∧
      m.subnets.map (fun s => (s.name, s.vlan)) =
        [("cabinet_3000", 1513), ("cabinet_3001", 1514), ("cabinet_3002", 1515)] ∧
      CountedVlansApart (some .hmn) (Cabinet.select (.ofKind "river") (pinnedRacks 1514))
        m.subnets := by
  have hok : unusedNetwork.addCabinetSubnets (pinnedRacks 1514) 22 (.ofKind "river") (some .hmn) =
      (.ok (), (unusedNetwork.addCabinetSubnets (pinnedRacks 1514) 22 (.ofKind "river")
        (some .hmn)).2) := Prod.ext (by decide +kernel) rfl
  refine ⟨_, rfl, hok, by decide +kernel, (countedVlans_apart_iff rfl hok).2.mpr ?_⟩
  intro d hd hcounted e he vlan hpins hvlan
  have hpinned : ∀ e ∈ Cabinet.select (.ofKind "river") (pinnedRacks 1514),
      e.hmnVlan = none ∨ e.hmnVlan = some 1514 := by decide +kernel
  have hgiven : e.hmnVlan = some vlan := hpins
  have hvalue : vlan = 1514 := by simpa [hgiven] using hpinned e he
  -- Only the rack that must get its VLAN stands at the second place.
  have hplace : ∀ d ∈ Cabinet.select (.ofKind "river") (pinnedRacks 1514), d.hmnVlan = none →
      placeById (Cabinet.select (.ofKind "river") (pinnedRacks 1514)) d ≠ 1 := by decide +kernel
  have hfirst : unusedNetwork.vlanRange.first.toNat = 1513 := rfl
  rw [hvalue, hfirst] at hvlan
  have hsecond : (1514 : UInt16).toNat = 1513 + 1 := rfl
  exact hplace d hd hcounted (Nat.add_left_cancel (hvlan.symm.trans hsecond))

/-- A rack that must get the VLAN that is counted for another rack shares it. -/
theorem not_forall_countedVlans_apart :
    ¬∀ (n m : Network) (groups : List Cabinet.Group) (bits : Nat) (accepts : Cabinet.Filter)
      (overrides : Option Overrides), n.subnets = [] →
        (groups.flatMap Cabinet.Group.cabinetIds).Nodup →
        n.addCabinetSubnets groups bits accepts overrides = (.ok (), m) →
        CountedVlansApart overrides (Cabinet.select accepts groups) m.subnets := by
  intro h
  have hok : unusedNetwork.addCabinetSubnets (pinnedRacks 1513) 22 (.ofKind "river") (some .hmn) =
      (.ok (), (unusedNetwork.addCabinetSubnets (pinnedRacks 1513) 22 (.ofKind "river")
        (some .hmn)).2) := Prod.ext (by decide +kernel) rfl
  have hapart := h _ _ _ _ _ _ rfl (by decide +kernel) hok
  revert hapart
  unfold CountedVlansApart IsCounted
  decide +kernel

end SitePlan.Network
