import SitePlan.Proofs.Cabinet.Populated
import SitePlan.Proofs.Layout.Networks
import SitePlan.Proofs.Network.CabinetRuns

/-!
# Subnets of cabinets

A network that is divided among cabinets gets one subnet for each accepted cabinet, under
the cabinet's name. In valid groups a cabinet therefore has a subnet exactly if it is
accepted.
-/

namespace SitePlan

namespace Cabinet

/-- A cabinet is selected if it belongs to some group with which it is accepted. -/
theorem mem_select {accepts : Filter} {groups : List Group} {d : Detail} :
    d ∈ select accepts groups ↔ ∃ g ∈ groups, d ∈ g.details ∧ accepts g d = true := by
  simp [select]

/-- Of the cabinets of valid groups, one is selected with its ID exactly if it is
accepted. -/
theorem exists_mem_select_iff {accepts : Filter} {groups : List Group}
    (hvalid : validate groups = .ok ()) {g : Group} (hg : g ∈ groups) {d : Detail}
    (hd : d ∈ g.details) :
    (∃ e ∈ select accepts groups, e.id = d.id) ↔ accepts g d = true := by
  constructor
  · rintro ⟨e, he, hid⟩
    obtain ⟨g', hg', he, haccepts⟩ := mem_select.mp he
    obtain ⟨rfl, rfl⟩ := eq_of_id_of_validate hvalid hg' hg he hd hid
    exact haccepts
  · intro haccepts
    exact ⟨d, mem_select.mpr ⟨g, hg, hd, haccepts⟩, rfl⟩

end Cabinet

namespace Network

open Outcome

/-- A subnet is found by its name exactly if the network has one of this name. -/
theorem exists_lookup_iff {n : Network} {name : String} :
    (∃ s, n.lookup name = .ok s) ↔ name ∈ n.subnetNames := by
  unfold lookup
  cases hfind : n.subnets.find? fun s => s.name = name with
  | none =>
    have habsent : ∀ s ∈ n.subnets, s.name ≠ name := by
      simpa using List.find?_eq_none.mp hfind
    simpa [subnetNames] using habsent
  | some s =>
    have hname : s.name = name := by simpa using List.find?_some hfind
    have hmem : s ∈ n.subnets := List.mem_of_find?_eq_some hfind
    exact ⟨fun _ => List.mem_map.mpr ⟨s, hmem, hname⟩, fun _ => ⟨s, rfl⟩⟩

/-- A network that is divided among cabinets has a subnet under the name of each accepted
one, besides those that it had. -/
theorem mem_subnetNames_addCabinetSubnets {n m : Network} {groups : List Cabinet.Group}
    {bits : Nat} {accepts : Cabinet.Filter} {overrides : Option Overrides}
    (hok : n.addCabinetSubnets groups bits accepts overrides = (.ok (), m)) {name : String} :
    name ∈ m.subnetNames ↔
      name ∈ n.subnetNames ∨ name ∈ (Cabinet.select accepts groups).map cabinetSubnetName := by
  obtain ⟨added, rfl, hserved⟩ := exists_serves hok
  rw [subnetNames, List.map_append, List.mem_append, hserved.map_name,
    ((servedCabinets_perm accepts groups).map cabinetSubnetName).mem_iff]
  rfl

end Network

namespace Layout

open Outcome Network

/-- No stage but that of the cabinets does anything in a network that is divided among them, and
the network is not sealed. -/
theorem build_perCabinet (template : Network) (accepts : Cabinet.Filter) (overrides : Overrides)
    (options : Options) (inputs : Inputs) :
    (perCabinet template accepts overrides options).build inputs =
      match template.addCabinetSubnets inputs.cabinets options.cabinetBits accepts
          (some overrides) with
      | (.ok (), n) => .ok n
      | (.error fault, _) => .error fault := by
  have hcarve : (perCabinet template accepts overrides options).carveAll inputs =
      (perCabinet template accepts overrides options).addCabinets inputs template := rfl
  rw [build, hcarve]
  exact bind_pure _

/-- The network that is divided among cabinets has nothing but their subnets. -/
theorem mem_subnetNames_build_perCabinet {template n : Network} {accepts : Cabinet.Filter}
    {overrides : Overrides} {options : Options} {inputs : Inputs}
    (hempty : template.subnets = [])
    (hbuild : (perCabinet template accepts overrides options).build inputs = .ok n)
    {name : String} :
    name ∈ n.subnetNames ↔
      name ∈ (Cabinet.select accepts inputs.cabinets).map cabinetSubnetName := by
  rw [build_perCabinet] at hbuild
  split at hbuild
  · next hadded =>
    cases hbuild
    simpa [subnetNames, hempty] using mem_subnetNames_addCabinetSubnets hadded
  · cases hbuild

end Layout

end SitePlan
