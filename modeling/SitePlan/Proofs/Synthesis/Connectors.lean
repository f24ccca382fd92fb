import SitePlan.Proofs.Hardware.Filing
import SitePlan.Proofs.Synthesis.CabinetNodes
import SitePlan.Proofs.Synthesis.RackRecords

/-!
# Connectors of management switches

The record of a connector refers to the switch that it belongs to and to the device that its
cable leads to. Both have records in the inventory, and since a location has one record only,
no two connectors lead to one device.
-/

namespace SitePlan.Hardware

/-- The names that brands give to their connectors. -/
inductive VendorNamed : String → UInt32 → String → Prop
  | dell (n : UInt32) : VendorNamed "Dell" n s!"ethernet1/1/{n.toNat}"
  | aruba (n : UInt32) : VendorNamed "Aruba" n s!"1/1/{n.toNat}"

namespace Inventory

/-- The location name is one where cables end: that of a record which is not of a node, or
that of the controller of a node with a record. -/
def HasNic (inventory : Inventory) (nic : String) : Prop :=
  (∃ r ∈ inventory.values, r.kind ≠ some .node ∧ r.xname = nic) ∨
    ∃ r ∈ inventory.values, r.kind = some .node ∧ r.parent = nic

/-- The record of a connector refers to what is there: it lies in a management switch, has
the name that this brand gives to the connector, and lists one end of a cable. -/
def RefersSoundly (inventory : Inventory) (c : Record) : Prop :=
  ∃ s p ns n nic vendorName, s ∈ inventory.values ∧ s.xname = c.parent ∧
    s.kind = some .mgmtSwitch ∧ s.properties = some (.mgmtSwitch p) ∧
    Xname.ordinals c.xname = .ok ns ∧ ns.getLast? = some n ∧
    c.properties = some (.connector ⟨[nic], vendorName⟩) ∧ VendorNamed p.brand n vendorName ∧
    inventory.HasNic nic

end Inventory

end SitePlan.Hardware

namespace SitePlan.Synthesis

open Cabling Hardware Outcome Xname

/-! ### Switches -/

/-- The location of a valid switch is of a kind that its role allows. -/
theorem kind?_of_validate {s : Switch} (hvalid : s.validate = .ok ()) :
    ∃ kind ∈ s.role.allowedKinds, kind? s.xname = some kind := by
  unfold Switch.validate at hvalid
  split at hvalid
  · next kind hkind =>
    split at hvalid
    · next hallowed => exact ⟨kind, hallowed, hkind⟩
    · cases hvalid
  · cases hvalid

/-- The record of a switch has the canonical spelling of its location, is of the kind of the
location, and says what is known of the switch. -/
theorem switchRecord_spec {cabinetIds : List UInt32} {s : Switch} {r : Record}
    (hok : switchRecord cabinetIds s = .ok r) :
    r.xname = normalize s.xname ∧ r.kind = kind? (normalize s.xname) ∧
      r.properties = some (.mgmtSwitch (switchProperties s (normalize s.xname))) ∧
      ∃ kind ∈ s.role.allowedKinds, r.kind = some kind := by
  obtain ⟨_, hvalid, hok⟩ := bind_eq_ok.mp hok
  obtain ⟨hardwareClass, _, hok⟩ := bind_eq_ok.mp hok
  obtain ⟨hxname, _, hproperties⟩ := createAs_spec (mapError_eq_ok.mp hok)
  obtain ⟨_, hkind⟩ := createAs_origin (mapError_eq_ok.mp hok)
  obtain ⟨kind, hallowed, hlocation⟩ := kind?_of_validate (mapError_eq_ok.mp hvalid)
  exact ⟨hxname, hkind, hproperties, kind, hallowed, hkind.trans (kind?_normalize hlocation)⟩

/-- Every listed switch has a record. -/
theorem exists_switchRecord {inputs : Inputs} {records : List Record}
    (hok : switchHardware inputs = .ok records) {s : Switch} (hs : s ∈ inputs.switches) :
    ∃ r ∈ records, r.xname = normalize s.xname ∧ r.kind = kind? (normalize s.xname) ∧
      r.properties = some (.mgmtSwitch (switchProperties s (normalize s.xname))) := by
  obtain ⟨r, hr, hrecord⟩ := exists_of_forall₂ (mapM_eq_ok.mp hok).flip hs
  obtain ⟨hxname, hkind, hproperties, _⟩ := switchRecord_spec hrecord
  exact ⟨r, hr, hxname, hkind, hproperties⟩

/-- No switch is recorded as a connector. -/
theorem kind_switchHardware {inputs : Inputs} {records : List Record}
    (hok : switchHardware inputs = .ok records) :
    ∀ r ∈ records, r.kind ≠ some .mgmtSwitchConnector := by
  intro r hr hkind
  obtain ⟨s, _, hrecord⟩ := exists_of_forall₂ (mapM_eq_ok.mp hok) hr
  obtain ⟨_, _, _, kind, hallowed, hr⟩ := switchRecord_spec hrecord
  obtain rfl := Option.some.inj (hr.symm.trans hkind)
  have hnone : ∀ role ∈ Switch.Role.all, Kind.mgmtSwitchConnector ∉ role.allowedKinds := by
    decide
  exact hnone s.role (by cases s.role <;> decide) hallowed

/-- A switch that is found by its location is listed, and lies there. -/
theorem mem_of_switchesByLocation {switches : List Switch} {location : String} {s : Switch}
    (hs : (switchesByLocation switches).get? location = some s) :
    s ∈ switches ∧ normalize s.xname = location := by
  obtain ⟨found, hmem, heq⟩ := List.mem_map.mp (SortedMap.mem_of_get?_ofList hs)
  obtain ⟨hlocation, rfl⟩ := Prod.mk.inj heq
  exact ⟨hmem, hlocation⟩

/-! ### Liquid-cooled cabinets -/

/-- Nothing in a liquid-cooled cabinet is recorded as a connector. -/
theorem kind_liquidCooledHardware {inputs : Inputs} {nids : Nids} {records : List Record}
    (hok : (liquidCooledHardware inputs nids).1 = .ok records) :
    ∀ r ∈ records, r.kind ≠ some .mgmtSwitchConnector := by
  intro r hr hkind
  obtain ⟨_, _, component, hcomponent, hof⟩ := exists_isRecordOf hok hr
  have hmem := kind_of_mem_chassisComponents hcomponent
  rw [Option.some.inj (hof.kind_eq.symm.trans hkind)] at hmem
  simp at hmem

/-! ### The inventory -/

/-- The records of devices are among those of devices and connectors, in their order. -/
theorem sublist_cabledRecords (cabled : List (Record × Option Record)) :
    (cabled.map Prod.fst).Sublist (cabledRecords cabled) := by
  induction cabled with
  | nil => exact .refl _
  | cons pair rest ih =>
    rw [cabledRecords, List.flatMap_cons, List.map_cons, List.cons_append]
    exact (ih.trans (List.sublist_append_right _ _)).cons_cons _

section

variable {inputs : Inputs} {nids : Nids} {rows : List Row} {filed : Inventory}

/-- The connectors in an inventory are those of the devices in racks, which have records of
their own. -/
theorem exists_cabled (hok : (inventory inputs nids rows).1 = .ok filed) :
    ∃ cabled : List (Record × Option Record),
      (∀ pair ∈ cabled, IsCabled (switchesByLocation inputs.switches) pair) ∧
      (∀ pair ∈ cabled, pair.1 ∈ filed.values) ∧
      (cabled.map fun pair => pair.1.xname).Nodup ∧
      ∀ c ∈ filed.values, c.kind = some .mgmtSwitchConnector → ∃ pair ∈ cabled, c ∈ pair.2 := by
  obtain ⟨hfiled, switches, racks, cabinets, later, hswitches, hracks, hcabinets, hperm⟩ :=
    inventory_spec hok
  obtain ⟨cabled, rfl, hcabled⟩ := rackHardware_cabled hracks
  refine ⟨cabled, hcabled, ?_, ?_, ?_⟩
  · intro pair hpair
    have hmem := (sublist_cabledRecords cabled).mem (List.mem_map_of_mem hpair)
    simp [hperm.mem_iff, hmem]
  · have hxnames := (hperm.map Record.xname).nodup_iff.mp hfiled.nodup_xnames
    have hracks : ((cabledRecords cabled).map Record.xname).Nodup := by
      rw [List.map_append, List.map_append] at hxnames
      exact (List.nodup_append'.mp (List.nodup_append'.mp hxnames).1).2.1
    have hdevices := hracks.sublist ((sublist_cabledRecords cabled).map Record.xname)
    rwa [List.map_map] at hdevices
  · intro c hc hkind
    rw [hperm.mem_iff, List.mem_append, List.mem_append] at hc
    rcases hc with (hswitch | hrack) | hcabinet
    · exact absurd hkind (kind_switchHardware hswitches c hswitch)
    · obtain ⟨pair, hpair, hmem⟩ := List.mem_flatMap.mp hrack
      rcases List.mem_cons.mp hmem with rfl | hmem
      · exact absurd hkind (hcabled pair hpair).device.kind
      · exact ⟨pair, hpair, Option.mem_toList.mp hmem⟩
    · exact absurd hkind (kind_liquidCooledHardware hcabinets c hcabinet)

/-- The end of the cable of a device with a record is there. -/
theorem hasNic_cabledNic {device : Record} (hdevice : device ∈ filed.values) :
    filed.HasNic (cabledNic device) := by
  by_cases hkind : device.kind = some .node
  · exact .inr ⟨device, hdevice, hkind, by rw [cabledNic, if_pos hkind]⟩
  · exact .inl ⟨device, hdevice, hkind, by rw [cabledNic, if_neg hkind]⟩

/-- A connector of a listed switch refers to what is there. -/
theorem refersSoundly_of_isConnector (hok : (inventory inputs nids rows).1 = .ok filed)
    {nic : String} {c : Record} (hnic : filed.HasNic nic)
    (hc : IsConnector (switchesByLocation inputs.switches) nic c) : filed.RefersSoundly c := by
  obtain ⟨_, switches, _, _, _, hswitches, _, _, hperm⟩ := inventory_spec hok
  obtain ⟨rack, slot, number, s, vendorName, hs, hvendor, hxname, hparent, hproperties⟩ := hc
  obtain ⟨hlisted, hlocation⟩ := mem_of_switchesByLocation hs
  obtain ⟨r, hr, hrxname, hrkind, hrproperties⟩ := exists_switchRecord hswitches hlisted
  rw [hlocation] at hrxname hrkind
  have hnamed : VendorNamed s.brand.name number vendorName := by
    revert hvendor
    cases s.brand <;> rintro ⟨⟩ <;> constructor
  refine ⟨r, _, _, number, nic, vendorName, ?_, hrxname.trans hparent.symm,
    hrkind.trans (Component.kind?_toXname _), hrproperties,
    hxname ▸ Component.ordinals_toXname _, rfl, hproperties, hnamed, hnic⟩
  simp [hperm.mem_iff, hr]

/-- Connectors that lead to one end of a cable are one connector. -/
theorem eq_of_isCabled {switches : SortedMap Switch}
    {cabled : List (Record × Option Record)}
    (hcabled : ∀ pair ∈ cabled, IsCabled switches pair)
    (hnodup : (cabled.map fun pair => pair.1.xname).Nodup) {pair pair' : Record × Option Record}
    (hpair : pair ∈ cabled) (hpair' : pair' ∈ cabled)
    (hnic : cabledNic pair.1 = cabledNic pair'.1) : pair = pair' := by
  obtain ⟨device, place, hend, hxname, hplace⟩ := (hcabled pair hpair).device.place
  obtain ⟨device', place', hend', hxname', hplace'⟩ := (hcabled pair' hpair').device.place
  obtain rfl : place = place' :=
    Component.toXname_injective (by rw [← hplace, hnic, hplace'])
  exact List.inj_on_of_nodup_map hnodup hpair hpair' (by
    rw [hxname, hxname', hend.device_eq hend'])

/-- Switch port records are referentially sound: every connector in an inventory lies in a
recorded management switch, has the name that the brand of this switch gives to it, and lists
one cable end, which is there. No two connectors list the same one. -/
theorem connectors_sound (hok : (inventory inputs nids rows).1 = .ok filed) :
    (∀ c ∈ filed.values, c.kind = some .mgmtSwitchConnector → filed.RefersSoundly c) ∧
      ∀ c ∈ filed.values, c.kind = some .mgmtSwitchConnector →
        ∀ c' ∈ filed.values, c'.kind = some .mgmtSwitchConnector → c ≠ c' →
          ∀ p p', c.properties = some (.connector p) → c'.properties = some (.connector p') →
            p.nodeNics.Disjoint p'.nodeNics := by
  obtain ⟨cabled, hcabled, hfiled, hnodup, hconnectors⟩ := exists_cabled hok
  constructor
  · intro c hc hkind
    obtain ⟨pair, hpair, hmem⟩ := hconnectors c hc hkind
    exact refersSoundly_of_isConnector hok (hasNic_cabledNic (hfiled pair hpair))
      ((hcabled pair hpair).connector c hmem)
  · intro c hc hkind c' hc' hkind' hne p p' hp hp' nic hnic hnic'
    obtain ⟨pair, hpair, hmem⟩ := hconnectors c hc hkind
    obtain ⟨pair', hpair', hmem'⟩ := hconnectors c' hc' hkind'
    rw [((hcabled pair hpair).connector c hmem).nodeNics_eq hp, List.mem_singleton] at hnic
    rw [((hcabled pair' hpair').connector c' hmem').nodeNics_eq hp',
      List.mem_singleton] at hnic'
    obtain rfl := eq_of_isCabled hcabled hnodup hpair hpair' (hnic.symm.trans hnic')
    exact hne (Option.mem_unique hmem hmem')

end

/-- A rack with one switch, whose location is spelled with padding. -/
def wiredSite : Inputs where
  cabinets := [{ kind := "river", details := [.ofId 3000] }]
  switches := [⟨"x3000c0w014", "sw-leaf-bmc-001", .leafBmc, .dell, "", none⟩]

/-- A node and a power distribution unit that are cabled to the switch. -/
def wiredSheet : List Row := [
  { source := "mn01", sourceRack := "x3000", sourceLocation := "u01",
    destinationRack := "x3000", destinationLocation := "u14", destinationConnector := "j01" },
  { source := "x3000p0", sourceRack := "x3000", sourceLocation := " ",
    destinationRack := "x3000", destinationLocation := "u14", destinationConnector := "j37" }]

/-- The two connectors of the wired site refer to what is there. -/
theorem connectors_sound_wiredSite :
    ∃ filed, (inventory wiredSite (.startingAt 1000) wiredSheet).1 = .ok filed ∧
      (filed.values.filter fun r => r.kind = some .mgmtSwitchConnector).length = 2 ∧
      ∀ c ∈ filed.values, c.kind = some .mgmtSwitchConnector → filed.RefersSoundly c := by
  obtain ⟨filed, hok, htwo⟩ : ∃ filed,
      (inventory wiredSite (.startingAt 1000) wiredSheet).1 = .ok filed ∧
        decide ((filed.values.filter fun r =>
          r.kind = some .mgmtSwitchConnector).length = 2) = true :=
    exists_of_toOption_any (by decide +kernel)
  exact ⟨filed, hok, of_decide_eq_true htwo, (connectors_sound hok).1⟩

end SitePlan.Synthesis
