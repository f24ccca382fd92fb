import SitePlan.Proofs.Outcome
import SitePlan.Proofs.Synthesis.RecordRuns
import SitePlan.Proofs.Xname.Components
import SitePlan.Synthesis.Rack

/-!
# How the records of a row are made

A record takes its parent from its location and its tag from the kind it is recorded as. The
records of a row are that of its device and, behind it, that of the connector that the device is
cabled to; doors, management switches and unknown devices that are no enclosures have none.
Whatever is said of the records in racks follows from the few ways in which they are made.
-/

namespace SitePlan.Synthesis

open Cabling Hardware Outcome Xname

/-! ### Making a record -/

section

variable {xname : String} {kind : Option Xname.Kind} {component : Component}
  {hardwareClass : Hardware.Class} {properties : Option Properties} {r : Record}

/-- A record is made where the location has a parent and the kind a tag, and says all that it is
made of. -/
theorem createAs_eq_ok :
    Record.createAs xname kind hardwareClass properties = .ok r ↔
      ∃ parent tag, Xname.parent xname = .ok parent ∧ kind.bind Tag.ofKind? = some tag ∧
        r = ⟨parent, xname, tag, hardwareClass, kind, properties⟩ := by
  unfold Record.createAs
  cases hparent : Xname.parent xname with
  | error fault => simp
  | ok parent => cases htag : kind.bind Tag.ofKind? <;> simp [eq_comm]

/-- A record that is made has the location name, class and properties that it is made
with. -/
theorem createAs_spec (hok : Record.createAs xname kind hardwareClass properties = .ok r) :
    r.xname = xname ∧ r.hardwareClass = hardwareClass ∧ r.properties = properties := by
  obtain ⟨_, _, _, _, rfl⟩ := createAs_eq_ok.mp hok
  exact ⟨rfl, rfl, rfl⟩

/-- A record that is made lies in the parent of its location and is of the kind it is
recorded as. -/
theorem createAs_origin (hok : Record.createAs xname kind hardwareClass properties = .ok r) :
    Xname.parent xname = .ok r.parent ∧ r.kind = kind := by
  obtain ⟨parent, _, hparent, _, rfl⟩ := createAs_eq_ok.mp hok
  exact ⟨hparent, rfl⟩

/-- A record that is made has the tag of the kind it is recorded as. -/
theorem tag_createAs (hok : Record.createAs xname kind hardwareClass properties = .ok r) :
    kind.bind Tag.ofKind? = some r.tag := by
  obtain ⟨_, tag, _, htag, rfl⟩ := createAs_eq_ok.mp hok
  exact htag

/-- A record of a component has its location name and the properties it is made with. -/
theorem record_spec (hok : record component hardwareClass properties = .ok r) :
    r.xname = component.toXname ∧ r.hardwareClass = hardwareClass ∧
      r.properties = properties :=
  createAs_spec (mapError_eq_ok.mp hok)

/-- The record of a component is of the component's kind. -/
theorem kind_record (hok : record component hardwareClass properties = .ok r) :
    r.kind = some component.kind := by
  rw [(createAs_origin (mapError_eq_ok.mp hok)).2, Component.kind?_toXname]

/-- The record of a component lies in the component around it. -/
theorem parent_record {parent : Component}
    (hok : record component hardwareClass properties = .ok r)
    (hparent : component.parent? = some parent) : r.parent = parent.toXname := by
  have hfound := (createAs_origin (mapError_eq_ok.mp hok)).1
  rw [Component.parent_toXname hparent] at hfound
  exact (Except.ok.inj hfound).symm

end

/-! ### Devices -/

/-- The device of a row has no record. -/
def RackContext.skips (ctx : RackContext) (row : Row) : Device → Bool
  | .door | .mgmtSwitch => true
  | .node .unknown => !ctx.isEnclosure row
  | _ => false

/-- The controller of a node with a number in an enclosure is one of four. -/
theorem enclosureBmc_eq_ok_of_some {row : Row} {number : UInt64} {bmc : UInt32}
    (hok : enclosureBmc row (some number) = .ok bmc) :
    1 ≤ number.toNat ∧ bmc.toNat = (number.toNat - 1) % 4 + 1 := by
  simp only [enclosureBmc] at hok
  split at hok
  · cases hok
  · next hzero =>
    cases hok
    have hpos : 1 ≤ number.toNat :=
      Nat.one_le_iff_ne_zero.mpr fun h => hzero (UInt64.toNat_inj.mp h)
    have hle : (1 : UInt64) ≤ number := UInt64.le_iff_toNat_le.mpr hpos
    have hplace : ((number - 1) % nodesPerEnclosure).toNat = (number.toNat - 1) % 4 := by
      rw [UInt64.toNat_mod, UInt64.toNat_sub_of_le _ _ hle]
      rfl
    refine ⟨hpos, ?_⟩
    rw [UInt64.toNat_toUInt32, UInt64.toNat_add, hplace, UInt64.toNat_one]
    omega

/-- How the record of a row's device in a rack is made; the number is for a management node. -/
inductive MakesDevice (ctx : RackContext) (row : Row) (rack : UInt32) (nid : UInt64) :
    Device → Record → Prop
  /-- The controller of a router refers to its own credentials. -/
  | router {position : Position} {place : Component} {r : Record}
      (stands : place = .routerBmc rack 0 position.height (bmcOrdinal position.side))
      (made : record place .river
        (some (.routerBmc ⟨vaultPath place.toXname, vaultPath place.toXname⟩)) = .ok r) :
      MakesDevice ctx row rack nid (.routerBmc position) r
  /-- The controller of a power distribution unit has no properties. -/
  | pdu {controller : UInt32} {r : Record}
      (made : record (.cabinetPduController rack controller) .river none = .ok r) :
      MakesDevice ctx row rack nid (.pdu controller) r
  /-- System nodes, and nodes of any kind that are enclosures, have the record of a controller. -/
  | enclosure {kind : NodeKind} {position : Position} {r : Record}
      (around : kind = .system ∨ ctx.isEnclosure row = true)
      (stands : row.position = .ok position)
      (made : Record.createAs (Component.nodeBmc rack 0 position.height
        enclosureController).toXname (some .chassisBmc) .river none = .ok r) :
      MakesDevice ctx row rack nid (.node kind) r
  /-- Other nodes have the host names that the site gives to their place besides their own. -/
  | node {kind : NodeKind} {properties : NodeProperties} {slot bmc : UInt32} {place : Component}
      {r : Record}
      (single : ctx.isEnclosure row = false)
      (recorded : nodeProperties? nid kind = some properties)
      (lies : nodePlace ctx row properties.nid = .ok (slot, bmc))
      (stands : place = .node rack 0 slot bmc 0)
      (made : record place .river (some (.node { properties with
        aliases := addNames properties.aliases
          (ctx.applicationNodes.aliasesFor place.toXname) })) = .ok r) :
      MakesDevice ctx row rack nid (.node kind) r

section

variable {ctx : RackContext} {row : Row} {rack : UInt32} {nid : UInt64}

/-- The record of an enclosure is made at the height of its row. -/
theorem enclosureRecord_eq_ok {r : Record} :
    enclosureRecord row rack = .ok r ↔ ∃ position, row.position = .ok position ∧
      Record.createAs (Component.nodeBmc rack 0 position.height enclosureController).toXname
        (some .chassisBmc) .river none = .ok r := by
  simp only [enclosureRecord, bind_eq_ok, mapError_eq_ok]

/-- A node that is no system node has the record of an enclosure's controller if it is one, and
else that of a node unless it is unknown. -/
theorem deviceRecord?_node_cases {kind : NodeKind} {made : Option Record}
    (hsystem : kind ≠ .system)
    (hok : deviceRecord? ctx row rack nid (.node kind) = .ok made) :
    (ctx.skips row (.node kind) = true ∧ made = none) ∨
      ∃ r, ctx.skips row (.node kind) = false ∧ made = some r ∧
        MakesDevice ctx row rack nid (.node kind) r := by
  simp only [deviceRecord?] at hok
  split at hok
  · next henclosure =>
    obtain ⟨r, hr, hok⟩ := bind_eq_ok.mp hok
    obtain rfl := pure_eq_ok.mp hok
    obtain ⟨position, hposition, hmade⟩ := enclosureRecord_eq_ok.mp hr
    refine .inr ⟨r, ?_, rfl, .enclosure (.inr henclosure) hposition hmade⟩
    cases kind <;> simp [RackContext.skips, henclosure]
  · next hsingle =>
    have hsingle : ctx.isEnclosure row = false := by simpa using hsingle
    split at hok
    · next properties hproperties =>
      obtain ⟨r, hr, hok⟩ := bind_eq_ok.mp hok
      obtain rfl := pure_eq_ok.mp hok
      obtain ⟨⟨slot, bmc⟩, hplace, hmade⟩ := bind_eq_ok.mp hr
      have hknown : kind ≠ .unknown := by
        rintro rfl
        cases hproperties
      refine .inr ⟨r, ?_, rfl, .node hsingle hproperties hplace rfl hmade⟩
      cases kind <;> first | rfl | exact absurd rfl hknown
    · next hnone =>
      obtain rfl := pure_eq_ok.mp hok
      refine .inl ⟨?_, rfl⟩
      cases kind with
      | unknown => simp [RackContext.skips, hsingle]
      | system => exact absurd rfl hsystem
      | _ => cases hnone

/-- The device of a row has no record, or it has one that is made in one of these ways. -/
theorem deviceRecord?_cases {device : Device} {made : Option Record}
    (hok : deviceRecord? ctx row rack nid device = .ok made) :
    (ctx.skips row device = true ∧ made = none) ∨
      ∃ r, ctx.skips row device = false ∧ made = some r ∧
        MakesDevice ctx row rack nid device r := by
  cases device with
  | door =>
    cases hok
    exact .inl ⟨rfl, rfl⟩
  | mgmtSwitch =>
    cases hok
    exact .inl ⟨rfl, rfl⟩
  | routerBmc position =>
    obtain ⟨r, hr, hok⟩ := bind_eq_ok.mp hok
    obtain rfl := pure_eq_ok.mp hok
    exact .inr ⟨r, rfl, rfl, .router rfl hr⟩
  | pdu controller =>
    obtain ⟨r, hr, hok⟩ := bind_eq_ok.mp hok
    obtain rfl := pure_eq_ok.mp hok
    exact .inr ⟨r, rfl, rfl, .pdu hr⟩
  | node kind =>
    by_cases hsystem : kind = .system
    · subst hsystem
      obtain ⟨r, hr, hok⟩ := bind_eq_ok.mp hok
      obtain rfl := pure_eq_ok.mp hok
      obtain ⟨position, hposition, hmade⟩ := enclosureRecord_eq_ok.mp hr
      exact .inr ⟨r, rfl, rfl, .enclosure (.inl rfl) hposition hmade⟩
    · exact deviceRecord?_node_cases hsystem hok

end

/-! ### Connectors -/

/-- The record of a connector is made of a listed switch whose brand names the connector. -/
theorem exists_of_connectorRecord {ctx : RackContext} {row : Row} {nic : String} {c : Record}
    (hok : connectorRecord ctx row nic = .ok c) :
    ∃ rack slot number s vendorName,
      ctx.switches.get? (Component.mgmtSwitch rack 0 slot).toXname = some s ∧
      connectorName? s.brand number = some vendorName ∧
      record (.mgmtSwitchConnector rack 0 slot number) .river
        (some (.connector ⟨[nic], vendorName⟩)) = .ok c := by
  obtain ⟨rack, _, hok⟩ := bind_eq_ok.mp hok
  obtain ⟨slot, _, hok⟩ := bind_eq_ok.mp hok
  obtain ⟨number, _, hok⟩ := bind_eq_ok.mp hok
  dsimp only at hok
  split at hok
  · exact absurd hok throw_ne_ok
  next s hswitch =>
  split at hok
  · exact absurd hok throw_ne_ok
  next vendorName hvendor =>
  exact ⟨rack, slot, number, s, vendorName, hswitch, hvendor, hok⟩

/-- The record of a connector is of a connector. -/
theorem kind_connectorRecord {ctx : RackContext} {row : Row} {nic : String} {c : Record}
    (hok : connectorRecord ctx row nic = .ok c) : c.kind = some .mgmtSwitchConnector := by
  obtain ⟨_, _, _, _, _, _, _, hmade⟩ := exists_of_connectorRecord hok
  exact kind_record hmade

/-! ### Rows -/

/-- How the records of a row are made; the number is for a management node. -/
inductive MakesPiece (ctx : RackContext) (nid : UInt64) (row : Row) : List Record → Prop
  /-- A device without a record is not cabled either. -/
  | skipped {device : Device} (reads : row.device ctx.applicationNodes = .ok device)
      (skips : ctx.skips row device = true) : MakesPiece ctx nid row []
  /-- The record of a device comes before that of the connector that it is cabled to. -/
  | recorded {device : Device} {rack : UInt32} {r : Record} {connector : Option Record}
      (reads : row.device ctx.applicationNodes = .ok device)
      (kept : ctx.skips row device = false)
      (inRack : row.rack "rack" row.sourceRack = .ok rack)
      (made : MakesDevice ctx row rack nid device r)
      (cabled : connector.isSome = row.isCabled)
      (connected : ∀ c ∈ connector, connectorRecord ctx row (cabledNic r) = .ok c) :
      MakesPiece ctx nid row (r :: connector.toList)

/-- The records of a row whose device and rack are known are made in this way. -/
theorem makesPiece_recordsInRack {ctx : RackContext} {row : Row} {rack : UInt32} {nid : UInt64}
    {device : Device} {piece : List Record}
    (hreads : row.device ctx.applicationNodes = .ok device)
    (hrack : row.rack "rack" row.sourceRack = .ok rack)
    (hok : recordsInRack ctx row rack nid device = .ok piece) : MakesPiece ctx nid row piece := by
  obtain ⟨made, hmade, hok⟩ := bind_eq_ok.mp hok
  rcases deviceRecord?_cases hmade with ⟨hskips, rfl⟩ | ⟨r, hkept, rfl, hdevice⟩
  · obtain rfl := pure_eq_ok.mp hok
    exact .skipped hreads hskips
  · -- the connector is given as an option, so the record in front of it is made only once
    suffices hconnector : ∃ connector : Option Record, connector.isSome = row.isCabled ∧
        (∀ c ∈ connector, connectorRecord ctx row (cabledNic r) = .ok c) ∧
        piece = r :: connector.toList by
      obtain ⟨connector, hcabled, hconnected, rfl⟩ := hconnector
      exact .recorded hreads hkept hrack hdevice hcabled hconnected
    dsimp only at hok
    split at hok
    · next hcabled =>
      obtain ⟨c, hc, hok⟩ := bind_eq_ok.mp hok
      obtain rfl := pure_eq_ok.mp hok
      exact ⟨some c, hcabled.symm, by simpa using hc, rfl⟩
    · next hcabled =>
      obtain rfl := pure_eq_ok.mp hok
      have hfree : row.isCabled = false := by simpa using hcabled
      exact ⟨none, hfree.symm, by simp, rfl⟩

/-- The records of a row are made in this way. -/
theorem makesPiece_rowRecords {ctx : RackContext} {nids later : NidSequence} {row : Row}
    {piece : List Record} (hok : rowRecords ctx nids row = (.ok piece, later)) :
    MakesPiece ctx nids.next row piece := by
  unfold rowRecords at hok
  split at hok
  · cases hok
  · next hdoor =>
    cases hok
    exact .skipped hdoor rfl
  · next hswitch =>
    cases hok
    exact .skipped hswitch rfl
  · next device _ _ hdevice =>
    split at hok
    · cases hok
    · next rack hrack =>
      have hrecords : recordsInRack ctx row rack nids.next device = .ok piece :=
        (Prod.mk.inj hok).1
      exact makesPiece_recordsInRack hdevice hrack hrecords

/-- A management node that is recorded as one uses up a number, and no other device does. -/
theorem nids_rowRecords {ctx : RackContext} {nids later : NidSequence} {row : Row}
    {piece : List Record} (hok : rowRecords ctx nids row = (.ok piece, later)) {device : Device}
    (hreads : row.device ctx.applicationNodes = .ok device) :
    later = if takesNid ctx row device then nids.skip 1 else nids := by
  unfold rowRecords at hok
  rw [hreads] at hok
  split at hok
  · next hfault => cases hfault
  · next hdoor =>
    cases hdoor
    exact (Prod.mk.inj hok).2.symm
  · next hswitch =>
    cases hswitch
    exact (Prod.mk.inj hok).2.symm
  · next hdevice =>
    cases hdevice
    split at hok
    · cases hok
    · exact (Prod.mk.inj hok).2.symm

/-! ### Runs over rows -/

/-- A run over rows succeeds where its first row does and the rest does after it. -/
theorem rowsRecords_cons_eq_ok {ctx : RackContext} {nids last : NidSequence} {row : Row}
    {rest : List Row} {records : List Record} :
    rowsRecords ctx nids (row :: rest) = (.ok records, last) ↔ ∃ piece later more,
      rowRecords ctx nids row = (.ok piece, later) ∧
        rowsRecords ctx later rest = (.ok more, last) ∧ records = piece ++ more :=
  recordsOfEach_cons_eq_ok

end SitePlan.Synthesis
