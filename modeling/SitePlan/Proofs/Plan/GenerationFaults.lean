import SitePlan.Proofs.Plan.DeclaredRacks

/-!
# Faults of planning

A plan is made in stages: the inventory, the networks, the records of cabinets, and their filing.
The first two can fail, and only for what the site says. The records of cabinets can always be
made and filed, since nothing in an inventory has the location of a cabinet and valid groups
declare no cabinet twice.
-/

namespace SitePlan.Plan

open Hardware Outcome Synthesis Xname

/-- The fault is one that no site should be able to bring about: a record that cannot be made of
its location or kind, or anything at all about the records of cabinets. -/
def GenerationError.IsInternal : GenerationError → Prop
  | .inventory fault => fault.IsInternal
  | .networks _ => False
  | .cabinets _ | .collision _ => True

/-- Faults of networks are the site's. -/
theorem GenerationError.not_isInternal_networks (fault : AddressError) :
    ¬ (GenerationError.networks fault).IsInternal :=
  not_false

/-- The records of cabinets of valid groups can be filed with those of an inventory. -/
theorem exists_addAll_cabinets {inputs : Synthesis.Inputs} {nids : Nids}
    {rows : List Cabling.Row} {hardware : Inventory}
    (hhardware : (inventory inputs nids rows).1 = .ok hardware)
    {groups : List Cabinet.Group} (hvalid : Cabinet.validate groups = .ok ())
    {networks : SortedMap Network} {cabinets : List Record}
    (hcabinets : cabinetHardware groups networks = .ok cabinets) :
    ∃ filed, file hardware cabinets = .ok filed := by
  obtain ⟨hfiled, _⟩ := inventory_spec hhardware
  obtain ⟨found, hfound, hxnames⟩ := exists_cabinetHardware hvalid networks
  obtain rfl := Except.ok.inj (hfound.symm.trans hcabinets)
  have hnodup : (found.map Record.xname).Nodup := by
    rw [hxnames]
    refine (Cabinet.validate_eq_ok.mp hvalid).2.map fun id other hsame => ?_
    exact Component.cabinet.inj (Component.toXname_injective hsame)
  have hapart : hardware.keys.Disjoint (found.map Record.xname) := by
    intro key hkey hcabinet
    rw [← hfiled.keys_eq] at hkey
    rw [hxnames] at hcabinet
    obtain ⟨r, hr, rfl⟩ := List.mem_map.mp hkey
    obtain ⟨id, _, hid⟩ := List.mem_map.mp hcabinet
    have hkind := kind?_ne_cabinet hhardware hr
    rw [← hid, Component.kind?_toXname] at hkind
    exact hkind rfl
  exact exists_file (List.nodup_append'.mpr ⟨hardware.nodup_keys, hnodup, hapart⟩)

/-- Records that can be filed can be added to a plan with this hardware. -/
theorem addHardware_of_file {hardware filed : Inventory} {records : List Record}
    (hfile : file hardware records = .ok filed) (networks : SortedMap Network) :
    (⟨hardware, networks⟩ : Plan).addHardware records = (.ok (), ⟨filed, networks⟩) := by
  unfold file at hfile
  split at hfile
  · next hadd =>
    cases hfile
    simp [addHardware, hadd]
  · cases hfile

/-- Internal faults do not occur: where the cabinets of a site are valid, a plan fails for want of
room in the networks or for a fault of the site's switches and rows. No record fails to be made
of its location or its kind, and the records of cabinets are always made and filed. -/
theorem not_isInternal_of_generate {site : Site} {options : Options} {fault : GenerationError}
    (hvalid : Cabinet.validate site.cabinets = .ok ())
    (hfail : generate site options = .error fault) : ¬ fault.IsInternal := by
  suffices hall : FailsOnly (fun fault => ¬ fault.IsInternal) (generate site options) from
    hall fault hfail
  refine FailsOnly.bind ?_ fun hardware hhardware => ?_
  · exact (failsOnly_inventory _ _ site.rows).mapError fun _ hexternal => hexternal
  refine FailsOnly.bind (failsOnly_mapError GenerationError.not_isInternal_networks)
    fun networks _ => ?_
  obtain ⟨cabinets, hcabinets, _⟩ := exists_cabinetHardware hvalid networks
  obtain ⟨filed, hfile⟩ :=
    exists_addAll_cabinets (mapError_eq_ok.mp hhardware) hvalid hcabinets
  refine failsOnly_of_exists ⟨⟨filed, networks⟩, ?_⟩
  refine bind_eq_ok.mpr ⟨cabinets, mapError_eq_ok.mpr hcabinets, ?_⟩
  rw [addHardware_of_file hfile networks]
  rfl

/-- A switch in the declared cabinet whose slot is written in a digit of another script. -/
def scriptSite : Site where
  cabinets := [Cabinet.Group.populate { kind := "river", total := 1, startingId := 3000 }]
  switches := [⟨"x3000c0w٣", "sw-leaf-bmc-001", .leafBmc, .dell, "", none⟩]

/-- The switch is valid and has the kind of a switch, but its cabinet cannot be read; that is a
fault of the list. -/
theorem not_isInternal_of_generate_scriptSite :
    Cabinet.validate scriptSite.cabinets = .ok () ∧
      ∃ fault, generate scriptSite {} = .error (.inventory (.location fault)) ∧
        ¬ (GenerationError.inventory (.location fault)).IsInternal := by
  have hvalid : Cabinet.validate scriptSite.cabinets = .ok () := by decide +kernel
  have hfail : generate scriptSite {} =
      .error (.inventory (.location (.ordinalOutOfRange "x3000c0w٣" "٣"))) := by
    decide +kernel
  exact ⟨hvalid, _, hfail, not_isInternal_of_generate hvalid hfail⟩

end SitePlan.Plan
