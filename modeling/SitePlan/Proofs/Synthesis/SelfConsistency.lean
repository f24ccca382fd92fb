import SitePlan.Proofs.Synthesis.Connectors
import SitePlan.Proofs.Synthesis.LiquidCooledRecords
import SitePlan.Proofs.Synthesis.RowPieces
import SitePlan.Proofs.Xname.CanonicalForm

/-!
# Records that agree with their locations

Records are made in several places: from components, from the locations of listed switches, and
for the controllers of enclosures, which have the location of a node controller and are recorded
as something else. In an inventory each record is filed under the canonical spelling of its
location, and what it says of its parent, kind, tag and properties follows from there.
-/

namespace SitePlan.Hardware

/-- The properties go with records of the kind: those of nodes, connectors, router controllers and
switches have some, each of their own sort, and others have none. -/
def FitsKind (properties : Option Properties) : Xname.Kind → Prop
  | .node => ∃ p, properties = some (.node p)
  | .mgmtSwitchConnector => ∃ p, properties = some (.connector p)
  | .routerBmc => ∃ p, properties = some (.routerBmc p)
  | .mgmtSwitch | .mgmtHlSwitch | .cduMgmtSwitch => ∃ p, properties = some (.mgmtSwitch p)
  | _ => properties = none

/-- What a record says of itself follows from its location. -/
structure Record.SelfConsistent (r : Record) : Prop where
  /-- The location is in its canonical spelling. -/
  canonical : Xname.normalize r.xname = r.xname
  /-- The parent is that of the location. -/
  parent : Xname.parent r.xname = .ok r.parent
  /-- The tag is that of the kind. -/
  tag : r.kind.bind Tag.ofKind? = some r.tag
  /-- The kind is that of the location, if this is not a node controller's. -/
  kind : Xname.kind? r.xname ≠ some .nodeBmc → r.kind = Xname.kind? r.xname
  /-- At the location of a node controller there is the controller of an enclosure in a rack. -/
  controller : Xname.kind? r.xname = some .nodeBmc →
    r.hardwareClass = .river ∧ r.kind = some .chassisBmc ∧
      ∃ ns, Xname.ordinals r.xname = .ok ns ∧ ns.getLast? = some 999
  /-- The properties go with the kind. -/
  properties : ∃ kind, r.kind = some kind ∧ FitsKind r.properties kind

end SitePlan.Hardware

namespace SitePlan.Synthesis

open Cabling Hardware Outcome Xname

/-! ### Making a record -/

/-- The location name of a component is in its canonical spelling. -/
theorem normalize_toXname (c : Component) : normalize c.toXname = c.toXname :=
  (Component.toXname_of_parse (Component.parse_toXname c)).symm

/-- A record of the kind of its location agrees with the location, if this is in its canonical
spelling and the properties go with the kind. -/
theorem selfConsistent_create {xname : String} {kind : Kind} {hardwareClass : Hardware.Class}
    {properties : Option Properties} {r : Record} (hcanonical : normalize xname = xname)
    (hlocation : kind? xname = some kind) (hother : kind ≠ .nodeBmc)
    (hfits : FitsKind properties kind)
    (hok : Record.create xname hardwareClass properties = .ok r) : r.SelfConsistent := by
  obtain ⟨rfl, _, rfl⟩ := createAs_spec hok
  obtain ⟨hparent, hkind⟩ := createAs_origin hok
  have hrecorded : r.kind = some kind := hkind.trans hlocation
  exact {
    canonical := hcanonical
    parent := hparent
    tag := hkind ▸ tag_createAs hok
    kind := fun _ => hkind
    controller := fun hnode => absurd (Option.some.inj (hlocation.symm.trans hnode)) hother
    properties := ⟨kind, hrecorded, hfits⟩ }

/-- A record of a component agrees with the component's location, if this is no node controller
and the properties go with the kind. -/
theorem selfConsistent_record {component : Component} {hardwareClass : Hardware.Class}
    {properties : Option Properties} {r : Record}
    (hok : record component hardwareClass properties = .ok r) (hother : component.kind ≠ .nodeBmc)
    (hfits : FitsKind properties component.kind) : r.SelfConsistent :=
  selfConsistent_create (normalize_toXname component) (Component.kind?_toXname component) hother
    hfits (mapError_eq_ok.mp hok)

/-- The record of an enclosure's controller agrees with its location. -/
theorem selfConsistent_enclosure {rack height : UInt32} {r : Record}
    (hok : Record.createAs (Component.nodeBmc rack 0 height enclosureController).toXname
      (some .chassisBmc) .river none = .ok r) : r.SelfConsistent := by
  obtain ⟨hxname, hclass, hproperties⟩ := createAs_spec hok
  obtain ⟨hparent, hkind⟩ := createAs_origin hok
  have hlocation : kind? r.xname = some .nodeBmc := by
    rw [hxname, Component.kind?_toXname, Component.kind]
  have hordinals : ordinals r.xname = .ok [rack, 0, height, 999] := by
    rw [hxname]
    exact Component.ordinals_toXname _
  exact {
    canonical := by rw [hxname, normalize_toXname]
    parent := by rw [hxname, hparent]
    tag := hkind ▸ tag_createAs hok
    kind := fun hother => absurd hlocation hother
    controller := fun _ => ⟨hclass, hkind, _, hordinals, rfl⟩
    properties := ⟨.chassisBmc, hkind, hproperties⟩ }

/-! ### Racks -/

/-- The record of a row's device agrees with its location. -/
theorem MakesDevice.selfConsistent {ctx : RackContext} {row : Row} {rack : UInt32} {nid : UInt64}
    {device : Device} {r : Record} (hmade : MakesDevice ctx row rack nid device r) :
    r.SelfConsistent := by
  cases hmade with
  | router stands made =>
    subst stands
    exact selfConsistent_record made (by simp [Component.kind]) ⟨_, rfl⟩
  | pdu made => exact selfConsistent_record made (by simp [Component.kind]) rfl
  | enclosure _ _ made => exact selfConsistent_enclosure made
  | node _ _ _ stands made =>
    subst stands
    exact selfConsistent_record made (by simp [Component.kind]) ⟨_, rfl⟩

/-- The records of a row agree with their locations. -/
theorem MakesPiece.selfConsistent {ctx : RackContext} {row : Row} {nid : UInt64}
    {piece : List Record} (hpiece : MakesPiece ctx nid row piece) :
    ∀ r ∈ piece, r.SelfConsistent := by
  cases hpiece with
  | skipped => simp
  | recorded _ _ _ made _ connected =>
    refine List.forall_mem_cons.mpr ⟨made.selfConsistent, fun c hc => ?_⟩
    obtain ⟨_, _, _, _, _, _, _, hconnector⟩ :=
      exists_of_connectorRecord (connected c (Option.mem_toList.mp hc))
    exact selfConsistent_record hconnector (by simp [Component.kind]) ⟨_, rfl⟩

/-- The records in racks agree with their locations. -/
theorem selfConsistent_rackHardware {inputs : Inputs} {nids : Nids} {rows : List Row}
    {records : List Record} (hok : (rackHardware inputs nids rows).1 = .ok records) :
    ∀ r ∈ records, r.SelfConsistent := by
  rw [rackHardware_eq_flatten] at hok
  obtain ⟨pieces, hpieces, rfl⟩ := map_eq_ok.mp hok
  obtain ⟨_, _, _, _, hmade⟩ := rackPieces_spec hpieces
  intro r hr
  obtain ⟨piece, hpiece, hr⟩ := List.mem_flatten.mp hr
  obtain ⟨_, _, _, hmade⟩ := exists_of_forall₂ hmade hpiece
  exact hmade.selfConsistent r hr

/-! ### Switches -/

/-- Switches lie where there are switches, whatever their role. -/
theorem eq_of_mem_allowedKinds {role : Switch.Role} {kind : Kind}
    (hallowed : kind ∈ role.allowedKinds) :
    kind = .mgmtSwitch ∨ kind = .mgmtHlSwitch ∨ kind = .cduMgmtSwitch := by
  have hkinds : ∀ role ∈ Switch.Role.all, ∀ kind ∈ role.allowedKinds,
      kind = .mgmtSwitch ∨ kind = .mgmtHlSwitch ∨ kind = .cduMgmtSwitch := by decide
  exact hkinds role (by cases role <;> decide) kind hallowed

/-- Switches are recorded as switches, whatever their role. -/
theorem fitsKind_allowedKinds (p : SwitchProperties) {role : Switch.Role} {kind : Kind}
    (hallowed : kind ∈ role.allowedKinds) :
    kind ≠ .nodeBmc ∧ FitsKind (some (.mgmtSwitch p)) kind := by
  rcases eq_of_mem_allowedKinds hallowed with rfl | rfl | rfl
  · exact ⟨by decide, p, rfl⟩
  · exact ⟨by decide, p, rfl⟩
  · exact ⟨by decide, p, rfl⟩

/-- The record of a switch agrees with its location, however this is spelled in the list. -/
theorem selfConsistent_switchRecord {cabinetIds : List UInt32} {s : Switch} {r : Record}
    (hok : switchRecord cabinetIds s = .ok r) : r.SelfConsistent := by
  obtain ⟨_, hkind, _, kind, hallowed, hr⟩ := switchRecord_spec hok
  obtain ⟨_, _, hok⟩ := bind_eq_ok.mp hok
  obtain ⟨_, _, hok⟩ := bind_eq_ok.mp hok
  obtain ⟨hother, hfits⟩ := fitsKind_allowedKinds
    (switchProperties s (normalize s.xname)) hallowed
  exact selfConsistent_create (normalize_normalize s.xname) (hkind.symm.trans hr) hother hfits
    (mapError_eq_ok.mp hok)

/-! ### Liquid-cooled cabinets -/

/-- A record that says something of a node has properties of a node. -/
theorem exists_properties_of_node? {r : Record} (hnode : r.node?.isSome = true) :
    ∃ p, r.properties = some (.node p) := by
  unfold Record.node? at hnode
  split at hnode
  · next p hp => exact ⟨p, hp⟩
  · cases hnode

/-- The record of a component of a chassis agrees with its location. -/
theorem IsRecordOf.selfConsistent {hardwareClass : Hardware.Class} {cabinet chassis : UInt32}
    {component : Component} {r : Record} (hof : IsRecordOf hardwareClass component r)
    (hcomponent : component ∈ chassisComponents cabinet chassis) : r.SelfConsistent := by
  have hmem := kind_of_mem_chassisComponents hcomponent
  have hother : component.kind ≠ .nodeBmc := by
    rintro hkind
    simp [hkind] at hmem
  have hlocation : kind? r.xname = some component.kind := by
    rw [hof.xname_eq, Component.kind?_toXname]
  obtain ⟨parent, hparent, hname⟩ := Option.map_eq_some_iff.mp hof.parent_eq
  have hproperties := hof.properties_eq
  refine {
    canonical := by rw [hof.xname_eq, normalize_toXname]
    parent := by rw [hof.xname_eq, Component.parent_toXname hparent, hname]
    tag := by rw [hof.kind_eq, Option.bind_some, hof.tag_eq]
    kind := fun _ => hof.kind_eq.trans hlocation.symm
    controller := fun hnode => absurd (Option.some.inj (hlocation.symm.trans hnode)) hother
    properties := ⟨component.kind, hof.kind_eq, ?_⟩ }
  simp only [List.mem_cons, List.not_mem_nil, or_false] at hmem
  rcases hmem with hkind | hkind | hkind
  · simpa [hkind, FitsKind] using hproperties
  · simpa [hkind, FitsKind] using hproperties
  · rw [if_pos hkind] at hproperties
    rw [hkind]
    exact exists_properties_of_node? hproperties

/-- The records of liquid-cooled cabinets agree with their locations. -/
theorem selfConsistent_liquidCooledHardware {inputs : Inputs} {nids : Nids}
    {records : List Record} (hok : (liquidCooledHardware inputs nids).1 = .ok records) :
    ∀ r ∈ records, r.SelfConsistent := by
  intro r hr
  obtain ⟨_, _, _, hcomponent, hof⟩ := exists_isRecordOf hok hr
  exact hof.selfConsistent hcomponent

/-! ### The inventory -/

/-- Every record of an inventory is filed under its location and agrees with it: the location is
in its canonical spelling, the parent and the kind are those of the location, the tag and the
properties go with the kind. Only at the location of a node controller there is something else,
the controller of an enclosure in a rack with the ordinal 999. -/
theorem selfConsistent_inventory {inputs : Inputs} {nids : Nids} {rows : List Row}
    {filed : Inventory} (hok : (inventory inputs nids rows).1 = .ok filed) {key : String}
    {r : Record} (hget : filed.get? key = some r) : key = r.xname ∧ r.SelfConsistent := by
  obtain ⟨hfiled, switches, racks, cabinets, later, hswitches, hracks, hcabinets, hperm⟩ :=
    inventory_spec hok
  have hentry : (key, r) ∈ filed.entries := SortedMap.get?_eq_some_iff.mp hget
  refine ⟨hfiled _ hentry, ?_⟩
  have hmem : r ∈ switches ++ racks ++ cabinets :=
    hperm.mem_iff.mp (List.mem_map_of_mem (f := Prod.snd) hentry)
  rw [List.mem_append, List.mem_append] at hmem
  rcases hmem with (hswitch | hrack) | hcabinet
  · obtain ⟨_, _, hrecord⟩ := exists_of_forall₂ (mapM_eq_ok.mp hswitches) hswitch
    exact selfConsistent_switchRecord hrecord
  · exact selfConsistent_rackHardware (congrArg Prod.fst hracks) r hrack
  · exact selfConsistent_liquidCooledHardware hcabinets r hcabinet

/-- A management node that a compute node names as its enclosure; the latter is cabled to the
switch of the wired site. -/
def nestedSheet : List Row := [
  { source := "nid000002", sourceRack := "x3000", sourceParent := "MN01 ",
    destinationRack := "x3000", destinationLocation := "u14", destinationConnector := "j01" },
  { source := "mn01", sourceRack := "x03000", sourceLocation := "u01" }]

/-- The management node is recorded as the controller of an enclosure, at a location of its own
kind. -/
theorem selfConsistent_inventory_nestedSheet :
    ∃ filed controller, (inventory wiredSite (.startingAt 1000) nestedSheet).1 = .ok filed ∧
      filed.keys = ["x3000c0s1b2n0", "x3000c0s1b999", "x3000c0w14", "x3000c0w14j1"] ∧
      filed.get? "x3000c0s1b999" = some controller ∧ controller.SelfConsistent := by
  obtain ⟨filed, hok, hkeys⟩ : ∃ filed,
      (inventory wiredSite (.startingAt 1000) nestedSheet).1 = .ok filed ∧
        decide (filed.keys = ["x3000c0s1b2n0", "x3000c0s1b999", "x3000c0w14", "x3000c0w14j1"]) =
          true :=
    exists_of_toOption_any (by decide +kernel)
  have hkeys := of_decide_eq_true hkeys
  have hcontains : filed.contains "x3000c0s1b999" = true := by
    rw [SortedMap.contains_iff, hkeys]
    decide
  obtain ⟨controller, hget⟩ := Option.isSome_iff_exists.mp hcontains
  exact ⟨filed, controller, hok, hkeys, hget, (selfConsistent_inventory hok hget).2⟩

end SitePlan.Synthesis
