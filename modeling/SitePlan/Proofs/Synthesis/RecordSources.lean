import SitePlan.Proofs.Synthesis.SelfConsistency

/-!
# What the records of an inventory are made of

A record of an inventory is that of a listed switch, of a device in the cabling sheet, of the
connector behind such a device, or of a component in a liquid-cooled cabinet. Its source says in
which cabinet it lies, if it does not stand on the floor. Only for devices this is nothing but
what a row names; the cabinets of all others are declared. No record has the location of a
cabinet.
-/

namespace SitePlan.Synthesis

open Cabling Hardware Outcome Xname

/-- The source that a record of an inventory is made of. -/
inductive RecordSource (inputs : Inputs) (rows : List Row) : Record → Prop
  /-- A listed switch. -/
  | listed {s : Switch} {r : Record} (listed : s ∈ inputs.switches)
      (made : switchRecord (inputs.cabinets.flatMap Cabinet.Group.cabinetIds) s = .ok r) :
      RecordSource inputs rows r
  /-- The device of a row that is not skipped. -/
  | device {ctx : RackContext} {row : Row} {rack : UInt32} {nid : UInt64} {device : Device}
      {r : Record} (onSheet : row ∈ rows)
      (kept : ¬ IsSkipped inputs.applicationNodes rows row)
      (inRack : row.rack "rack" row.sourceRack = .ok rack)
      (made : MakesDevice ctx row rack nid device r) : RecordSource inputs rows r
  /-- The connector that a device is cabled to. -/
  | connector {ctx : RackContext} {row : Row} {nic : String} {r : Record}
      (switches : ctx.switches = switchesByLocation inputs.switches)
      (made : connectorRecord ctx row nic = .ok r) : RecordSource inputs rows r
  /-- A component in a liquid-cooled cabinet. -/
  | liquidCooled {hardwareClass : Hardware.Class} {component : Component} {r : Record}
      (cooled : (hardwareClass, component) ∈ liquidCooledComponents inputs.cabinets)
      (made : IsRecordOf hardwareClass component r) : RecordSource inputs rows r

section

variable {inputs : Inputs} {nids : Nids} {rows : List Row} {r : Record}

/-- The records of a row are those of its device, if the row is not skipped, and of the connector
behind it. -/
theorem MakesPiece.recordSource {ctx : RackContext} {nid : UInt64} {row : Row}
    {piece : List Record} (hconfig : ctx.applicationNodes = inputs.applicationNodes)
    (hswitches : ctx.switches = switchesByLocation inputs.switches)
    (hknown : enclosures rows = .ok ctx.enclosures) (hrow : row ∈ rows)
    (hpiece : MakesPiece ctx nid row piece) (hr : r ∈ piece) : RecordSource inputs rows r := by
  cases hpiece with
  | skipped => cases hr
  | recorded reads kept inRack made _ connected =>
    rcases List.mem_cons.mp hr with rfl | hconnector
    · refine .device hrow ?_ inRack made
      rw [← hconfig, isSkipped_iff hknown reads, kept]
      exact Bool.false_ne_true
    · exact .connector hswitches (connected r (Option.mem_toList.mp hconnector))

/-- Every record in racks has its source. -/
theorem recordSource_rackHardware {racks : List Record}
    (hok : (rackHardware inputs nids rows).1 = .ok racks) (hr : r ∈ racks) :
    RecordSource inputs rows r := by
  rw [rackHardware_eq_flatten] at hok
  obtain ⟨pieces, hpieces, rfl⟩ := map_eq_ok.mp hok
  obtain ⟨ctx, hconfig, hswitches, hknown, hmade⟩ := rackPieces_spec hpieces
  obtain ⟨piece, hpiece, hr⟩ := List.mem_flatten.mp hr
  obtain ⟨row, hrow, nid, hmakes⟩ := exists_of_forall₂ hmade hpiece
  exact hmakes.recordSource hconfig hswitches hknown hrow hr

/-- Every record of an inventory has its source. -/
theorem recordSource_inventory {filed : Inventory}
    (hok : (inventory inputs nids rows).1 = .ok filed) (hr : r ∈ filed.values) :
    RecordSource inputs rows r := by
  obtain ⟨_, switches, racks, cabinets, later, hswitches, hracks, hcabinets, hperm⟩ :=
    inventory_spec hok
  rw [hperm.mem_iff, List.mem_append, List.mem_append] at hr
  rcases hr with (hswitch | hrack) | hcabinet
  · obtain ⟨s, hs, hrecord⟩ := exists_of_forall₂ (mapM_eq_ok.mp hswitches) hswitch
    exact .listed hs hrecord
  · exact recordSource_rackHardware (congrArg Prod.fst hracks) hrack
  · obtain ⟨made, hmade, hrecords⟩ := exists_forall₂_isRecordOf inputs later
    obtain rfl := Except.ok.inj (hcabinets.symm.trans hmade)
    obtain ⟨place, hplace, hrecord⟩ := exists_of_forall₂ hrecords hcabinet
    exact .liquidCooled hplace hrecord

/-! ### Where records lie -/

/-- The kinds of the places inside of cabinets that records have. -/
def innerKinds : List Kind :=
  [.mgmtSwitch, .mgmtHlSwitch, .mgmtSwitchConnector, .routerBmc, .cabinetPduController, .nodeBmc,
    .node, .chassis, .chassisBmc]

/-- The record lies inside of the cabinet with this ordinal. -/
def LiesIn (id : UInt32) (r : Record) : Prop :=
  ∃ component : Component, r.xname = component.toXname ∧ component.kind ∈ innerKinds ∧
    component.ordinals.head? = some id

/-- Places inside of cabinets begin with the cabinet and go on. -/
theorem segments_of_mem_innerKinds {component : Component} {id : UInt32}
    (hkind : component.kind ∈ innerKinds) (hid : component.ordinals.head? = some id) :
    ∃ inner, component.segments = .ofOrdinal 'x' id :: inner ∧ inner ≠ [] := by
  cases component <;> cases hid <;>
    first | exact ⟨_, rfl, List.cons_ne_nil _ _⟩ | simp [innerKinds, Component.kind] at hkind

/-- The location of a record inside of a cabinet begins with that of the cabinet. -/
theorem LiesIn.exists_segments {id : UInt32} (hr : LiesIn id r) :
    ∃ inner, segments? r.xname = some (.ofOrdinal 'x' id :: inner) := by
  obtain ⟨component, hxname, hkind, hid⟩ := hr
  obtain ⟨inner, hsegments, _⟩ := segments_of_mem_innerKinds hkind hid
  have hparse := (parse?_eq_some_iff.mp component.parse?_toXname).1
  exact ⟨inner, by rw [hxname, hparse, hsegments]⟩

/-- A record inside of a cabinet does not have the location of a cabinet. -/
theorem LiesIn.kind_ne {id : UInt32} (hr : LiesIn id r) : kind? r.xname ≠ some .cabinet := by
  obtain ⟨component, hxname, hkind, _⟩ := hr
  rw [hxname, Component.kind?_toXname, ne_eq, Option.some.injEq]
  rintro hcabinet
  rw [hcabinet] at hkind
  exact absurd hkind (by decide)

/-- A record of a component lies in the cabinet of the component. -/
theorem liesIn_record {id : UInt32} {component : Component} {hardwareClass : Hardware.Class}
    {properties : Option Properties} (hkind : component.kind ∈ innerKinds)
    (hid : component.ordinals.head? = some id)
    (hok : record component hardwareClass properties = .ok r) : LiesIn id r :=
  ⟨component, (record_spec hok).1, hkind, hid⟩

/-- The record of a row's device lies in the row's rack. -/
theorem MakesDevice.liesIn {ctx : RackContext} {row : Row} {rack : UInt32} {nid : UInt64}
    {device : Device} (hmade : MakesDevice ctx row rack nid device r) : LiesIn rack r := by
  cases hmade with
  | router stands made =>
    subst stands
    exact liesIn_record (by simp [innerKinds, Component.kind]) rfl made
  | pdu made => exact liesIn_record (by simp [innerKinds, Component.kind]) rfl made
  | enclosure _ _ made =>
    exact ⟨_, (createAs_spec made).1, by simp [innerKinds, Component.kind], rfl⟩
  | node _ _ _ stands made =>
    subst stands
    exact liesIn_record (by simp [innerKinds, Component.kind]) rfl made

/-- The record of a component in a liquid-cooled cabinet lies in a declared cabinet. -/
theorem exists_liesIn_of_liquidCooled {groups : List Cabinet.Group}
    {hardwareClass : Hardware.Class} {component : Component}
    (hcooled : (hardwareClass, component) ∈ liquidCooledComponents groups)
    (hrecord : IsRecordOf hardwareClass component r) :
    ∃ id ∈ groups.flatMap Cabinet.Group.cabinetIds, LiesIn id r := by
  obtain ⟨⟨_, cabinet⟩, hcabinet, hplace⟩ := List.mem_flatMap.mp hcooled
  obtain ⟨_, hcomponent, hplace⟩ := List.mem_map.mp hplace
  obtain ⟨_, rfl⟩ := Prod.mk.inj hplace
  have hid : cabinet.id ∈ groups.flatMap Cabinet.Group.cabinetIds := by
    obtain ⟨_, _, hcabinet⟩ := List.mem_flatMap.mp hcabinet
    obtain ⟨g, hg, hcabinet⟩ := List.mem_flatMap.mp hcabinet
    obtain ⟨d, hd, hpair⟩ := List.mem_map.mp hcabinet
    obtain ⟨_, rfl⟩ := Prod.mk.inj hpair
    exact List.mem_flatMap.mpr ⟨g, List.mem_of_mem_filter hg, List.mem_map_of_mem hd⟩
  refine ⟨cabinet.id, hid, _, hrecord.xname_eq, ?_⟩
  obtain ⟨chassis, _, hcomponent⟩ := List.mem_flatMap.mp hcomponent
  rw [chassisComponents_eq, List.mem_cons, List.mem_cons, List.mem_map] at hcomponent
  rcases hcomponent with rfl | rfl | ⟨_, _, rfl⟩ <;>
    exact ⟨by simp [innerKinds, Component.kind], rfl⟩

/-- A switch has the class of its place: of the floor, or of a rack that is declared. -/
theorem switchClass_eq_ok {cabinetIds : List UInt32} {xname : String}
    {hardwareClass : Hardware.Class} :
    switchClass cabinetIds xname = .ok hardwareClass ↔
      hardwareClass = (if kind? xname = some .cduMgmtSwitch then .mountain else .river) ∧
        (kind? xname ≠ some .cduMgmtSwitch →
          ∃ ns, ordinals xname = .ok ns ∧ ns.headD 0 ∈ cabinetIds) := by
  unfold switchClass
  by_cases hfloor : kind? xname = some .cduMgmtSwitch
  · simp [hfloor, eq_comm]
  · rw [if_neg hfloor, if_neg hfloor]
    cases ordinals xname with
    | error fault => simp [hfloor]
    | ok ns =>
      simp only [List.headD_eq_head?_getD]
      by_cases hdeclared : ns.head?.getD 0 ∈ cabinetIds
      · simp [hfloor, hdeclared, eq_comm]
      · simp [hfloor, hdeclared]

/-- A location name in the canonical spelling whose ordinals can be read is that of a component,
if there are components of its kind. -/
theorem exists_toXname_eq {s : String} {other : Component} {ns : List UInt32}
    (hcanonical : normalize s = s) (hkind : kind? s = some other.kind)
    (hroot : other.kind ≠ .system) (hordinals : ordinals s = .ok ns) :
    ∃ component : Component, s = component.toXname ∧ component.kind = other.kind ∧
      component.ordinals = ns := by
  obtain ⟨segments, hparse⟩ := kind?_eq_some_iff.mp hkind
  have hread := exists_ordinalsOf.mp ⟨ns, ordinals_of_parse? hparse hroot ▸ hordinals⟩
  obtain ⟨component, hcomponent⟩ := (Component.exists_parse hparse).mpr hread
  obtain ⟨hsame, _, hfound⟩ := Component.parse_eq_ok.mp hcomponent
  refine ⟨component, ?_, hsame, Except.ok.inj (hfound.symm.trans hordinals)⟩
  rw [Component.toXname_of_parse hcomponent, hcanonical]

/-- What is inside of a cabinet in the canonical spelling lies in the cabinet of the first
ordinal. -/
theorem liesIn_of_ordinals (other : Component) {ns : List UInt32}
    (hcanonical : normalize r.xname = r.xname) (hkind : kind? r.xname = some other.kind)
    (hinner : other.kind ∈ innerKinds) (hordinals : ordinals r.xname = .ok ns) :
    LiesIn (ns.headD 0) r := by
  have hroot : other.kind ≠ .system := by
    intro hsystem
    rw [hsystem] at hinner
    exact absurd hinner (by decide)
  obtain ⟨component, hxname, hsame, rfl⟩ :=
    exists_toXname_eq hcanonical hkind hroot hordinals
  rw [← hsame] at hinner
  refine ⟨component, hxname, hinner, ?_⟩
  cases component <;> first | rfl | simp [innerKinds, Component.kind] at hinner

/-- A switch stands on the floor or lies in one of these cabinets. -/
theorem switchRecord_place {cabinetIds : List UInt32} {s : Switch}
    (hok : switchRecord cabinetIds s = .ok r) :
    kind? r.xname = some .cduMgmtSwitch ∨ ∃ id ∈ cabinetIds, LiesIn id r := by
  obtain ⟨hxname, hkind, _, kind, hallowed, hr⟩ := switchRecord_spec hok
  have hcanonical := (selfConsistent_switchRecord hok).canonical
  rw [← hxname, hr] at hkind
  obtain ⟨_, _, hok⟩ := bind_eq_ok.mp hok
  obtain ⟨_, hclass, _⟩ := bind_eq_ok.mp hok
  rw [← hxname] at hclass
  by_cases hfloor : kind? r.xname = some .cduMgmtSwitch
  · exact .inl hfloor
  · obtain ⟨ns, hordinals, hdeclared⟩ := (switchClass_eq_ok.mp hclass).2 hfloor
    rcases eq_of_mem_allowedKinds hallowed with rfl | rfl | rfl
    · exact .inr ⟨_, hdeclared,
        liesIn_of_ordinals (.mgmtSwitch 0 0 0) hcanonical hkind.symm (by decide) hordinals⟩
    · exact .inr ⟨_, hdeclared,
        liesIn_of_ordinals (.mgmtHlSwitch 0 0 0 0) hcanonical hkind.symm (by decide) hordinals⟩
    · exact .inl hkind.symm

/-- The connector behind a device lies in the cabinet of its switch. -/
theorem connectorRecord_place {ctx : RackContext} {row : Row} {nic : String}
    {switches : List Record}
    (hswitches : switchHardware inputs = .ok switches)
    (hlisted : ctx.switches = switchesByLocation inputs.switches)
    (hok : connectorRecord ctx row nic = .ok r) :
    ∃ id ∈ inputs.cabinets.flatMap Cabinet.Group.cabinetIds, LiesIn id r := by
  obtain ⟨rack, slot, number, s, _, hswitch, _, hmade⟩ := exists_of_connectorRecord hok
  rw [hlisted] at hswitch
  obtain ⟨hs, hlocation⟩ := mem_of_switchesByLocation hswitch
  obtain ⟨found, _, hfound⟩ := exists_of_forall₂ (mapM_eq_ok.mp hswitches).flip hs
  have hxname : found.xname = (Component.mgmtSwitch rack 0 slot).toXname := by
    rw [(switchRecord_spec hfound).1, hlocation]
  refine ⟨rack, ?_, liesIn_record (by simp [innerKinds, Component.kind]) rfl hmade⟩
  rcases switchRecord_place hfound with hfloor | ⟨id, hid, component, hplace, _, hhead⟩
  · rw [hxname, Component.kind?_toXname] at hfloor
    cases hfloor
  · obtain rfl := Component.toXname_injective (hxname.symm.trans hplace)
    obtain rfl : rack = id := Option.some.inj hhead
    exact hid

/-- A record stands on the floor, lies in a declared cabinet, or is that of a device in the rack
that its row names. -/
theorem RecordSource.place {switches : List Record}
    (hswitches : switchHardware inputs = .ok switches) (hsource : RecordSource inputs rows r) :
    kind? r.xname = some .cduMgmtSwitch ∨ ∃ id, LiesIn id r ∧
      (id ∈ inputs.cabinets.flatMap Cabinet.Group.cabinetIds ∨
        ∃ row ∈ rows, ¬ IsSkipped inputs.applicationNodes rows row ∧
          row.rack "rack" row.sourceRack = .ok id) := by
  cases hsource with
  | listed _ made =>
    rcases switchRecord_place made with hfloor | ⟨id, hid, hr⟩
    · exact .inl hfloor
    · exact .inr ⟨id, hr, .inl hid⟩
  | @device _ row rack _ _ _ onSheet kept inRack made =>
    exact .inr ⟨rack, made.liesIn, .inr ⟨row, onSheet, kept, inRack⟩⟩
  | connector listed made =>
    obtain ⟨id, hid, hr⟩ := connectorRecord_place hswitches listed made
    exact .inr ⟨id, hr, .inl hid⟩
  | liquidCooled cooled made =>
    obtain ⟨id, hid, hr⟩ := exists_liesIn_of_liquidCooled cooled made
    exact .inr ⟨id, hr, .inl hid⟩

/-- The device of a row that is not skipped has a record in the row's rack. -/
theorem exists_liesIn_of_row {filed : Inventory}
    (hok : (inventory inputs nids rows).1 = .ok filed) {row : Row} (hrow : row ∈ rows)
    (hkept : ¬ IsSkipped inputs.applicationNodes rows row) :
    ∃ rack, row.rack "rack" row.sourceRack = .ok rack ∧
      ∃ r ∈ filed.values, LiesIn rack r := by
  obtain ⟨_, switches, racks, cabinets, _, _, hracks, _, hperm⟩ := inventory_spec hok
  have hflat := rackHardware_eq_flatten inputs nids rows
  rw [hracks] at hflat
  obtain ⟨pieces, hpieces, rfl⟩ := map_eq_ok.mp hflat.symm
  obtain ⟨ctx, hconfig, _, hknown, hmade⟩ := rackPieces_spec hpieces
  obtain ⟨piece, hpiece, nid, hmakes⟩ := exists_of_forall₂ hmade.flip hrow
  cases hmakes with
  | skipped reads skips =>
    rw [← hconfig, isSkipped_iff hknown reads] at hkept
    exact absurd skips hkept
  | @recorded _ rack r connector _ _ inRack made _ _ =>
    have hr : r ∈ pieces.flatten := List.mem_flatten.mpr ⟨_, hpiece, List.mem_cons_self⟩
    exact ⟨rack, inRack, r, by simp [hperm.mem_iff, hr], made.liesIn⟩

/-- No record of an inventory has the location of a cabinet. -/
theorem kind?_ne_cabinet {filed : Inventory} (hok : (inventory inputs nids rows).1 = .ok filed)
    (hr : r ∈ filed.values) : kind? r.xname ≠ some .cabinet := by
  obtain ⟨_, switches, _, _, _, hswitches, _⟩ := inventory_spec hok
  rcases (recordSource_inventory hok hr).place hswitches with hfloor | ⟨id, hlies, _⟩
  · simp [hfloor]
  · exact hlies.kind_ne

end

end SitePlan.Synthesis
