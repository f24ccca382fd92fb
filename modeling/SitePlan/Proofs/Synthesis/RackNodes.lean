import SitePlan.Proofs.SortedMap
import SitePlan.Proofs.Synthesis.RowRecords

/-!
# Node records of racks

The node records of racks follow the rows of the cabling sheet: each row of a node that is
not an enclosure gives one, in the order of the rows, with what the row says of the node and
the host names that the site gives to its location. Management nodes are counted on.
-/

namespace SitePlan.Synthesis

open Cabling Hardware Outcome

/-- Some row names the device of this row as its enclosure. -/
def isNamedEnclosure (rows : List Row) (row : Row) : Bool :=
  rows.any fun other => other.hasParent && other.parentKey = row.key

/-- What the node of a row is recorded as, if the row is of a node and not an enclosure. -/
def recordedKind? (config : ApplicationNode.Config) (rows : List Row) (row : Row) :
    Option NodeKind :=
  match row.device config with
  | .ok (.node kind) => if isNamedEnclosure rows row then none else some kind
  | _ => none

/-- What the nodes of rows are recorded as, in the order of the rows. -/
def recordedKinds (config : ApplicationNode.Config) (rows : List Row) : List NodeKind :=
  rows.filterMap (recordedKind? config rows)

/-- The numbers that are left for management nodes after a node. -/
def nidsAfter (nids : NidSequence) : NodeKind → NidSequence
  | .management .. => nids.skip 1
  | _ => nids

/-- What the records of nodes say at first, where management nodes are numbered from here
on. -/
def numberedNodes (nids : NidSequence) : List NodeKind → List NodeProperties
  | [] => []
  | kind :: rest =>
    (nodeProperties? nids.next kind).toList ++ numberedNodes (nidsAfter nids kind) rest

/-- The records that are of nodes. -/
def nodesOf (records : List Record) : List Record := records.filter fun r => r.node?.isSome

/-- The record is of a node in a rack that says this at first, with the host names that the
site gives to its location. -/
def RecordsNode (config : ApplicationNode.Config) (properties : NodeProperties)
    (r : Record) : Prop :=
  r.hardwareClass = .river ∧
    r.node? = some { properties with
      aliases := addNames properties.aliases (config.aliasesFor r.xname) }

/-- The enclosures that rows name, and those that were known before, are known. -/
theorem contains_enclosuresInto {byName : SortedMap Row} {known later : SortedMap UInt32}
    {rows : List Row} (hok : enclosuresInto byName known rows = .ok later) (key : String) :
    later.contains key = true ↔ known.contains key = true ∨
      ∃ row ∈ rows, row.hasParent = true ∧ row.parentKey = key := by
  induction rows generalizing known with
  | nil =>
    cases hok
    simp
  | cons row rest ih =>
    rw [List.exists_mem_cons_iff]
    unfold enclosuresInto at hok
    split at hok
    · next hnew =>
      split at hok
      · cases hok
      · split at hok
        · cases hok
        · rw [Bool.and_eq_true] at hnew
          have hnamed : key = row.parentKey ↔ row.hasParent = true ∧ row.parentKey = key := by
            simp [hnew.1, eq_comm]
          rw [ih hok, SortedMap.contains_insert, hnamed, or_assoc, or_left_comm]
    · next hold =>
      -- The row names an enclosure that is known, if it names one.
      have hknown : row.hasParent = true ∧ row.parentKey = key → known.contains key = true := by
        rintro ⟨hparent, rfl⟩
        rw [hparent, Bool.true_and, Bool.not_eq_true, Bool.not_eq_false'] at hold
        exact hold
      rw [ih hok, ← or_assoc, or_iff_left_of_imp hknown]

/-- The enclosures that rows name are known. -/
theorem contains_enclosures {rows : List Row} {known : SortedMap UInt32}
    (hok : enclosures rows = .ok known) (row : Row) :
    known.contains row.key = isNamedEnclosure rows row := by
  rw [Bool.eq_iff_iff, contains_enclosuresInto hok]
  simp [isNamedEnclosure, SortedMap.contains, SortedMap.get?, SortedMap.empty]

/-- A record that is made without properties is not of a node. -/
theorem node?_eq_none_of_properties {r : Record} (hnone : r.properties = none) :
    r.node? = none := by
  simp [Record.node?, hnone]

/-- The record of a switch connector is not of a node. -/
theorem node?_connectorRecord {ctx : RackContext} {row : Row} {nic : String} {r : Record}
    (hok : connectorRecord ctx row nic = .ok r) : r.node? = none := by
  obtain ⟨_, _, _, _, _, _, _, hmade⟩ := exists_of_connectorRecord hok
  simp [Record.node?, (record_spec hmade).2.2]

/-- What the device of a row is recorded as, if it is a node and not an enclosure. -/
def RackContext.kind? (ctx : RackContext) (row : Row) : Device → Option NodeKind
  | .node kind => if ctx.isEnclosure row then none else some kind
  | _ => none

/-- A record that is not of a node adds no node. -/
theorem forall₂_nodesOf_of_none {config : ApplicationNode.Config} {r : Record}
    (hr : r.node? = none) : List.Forall₂ (RecordsNode config) [] (nodesOf [r]) := by
  simp [nodesOf, hr]

/-- Joined lists have the nodes of each. -/
theorem nodesOf_append (records more : List Record) :
    nodesOf (records ++ more) = nodesOf records ++ nodesOf more := by
  simp [nodesOf]

section

variable {ctx : RackContext} {row : Row} {nid : UInt64}

/-- A device without a record is no node with properties. -/
theorem nodeProperties?_of_skips {device : Device} (hskips : ctx.skips row device = true) :
    (ctx.kind? row device).bind (nodeProperties? nid) = none := by
  cases device with
  | door | mgmtSwitch | routerBmc | pdu => rfl
  | node kind =>
    have hunknown : kind = .unknown := by
      cases kind <;> first | rfl | cases hskips
    subst hunknown
    simp only [RackContext.kind?]
    split <;> rfl

/-- The record that is made for a device is of a node exactly if the device is a node with
properties that is no enclosure. -/
theorem MakesDevice.recordsNode {rack : UInt32} {device : Device} {r : Record}
    (hmade : MakesDevice ctx row rack nid device r) :
    List.Forall₂ (RecordsNode ctx.applicationNodes)
      ((ctx.kind? row device).bind (nodeProperties? nid)).toList (nodesOf [r]) := by
  cases hmade with
  | router stands made =>
    apply forall₂_nodesOf_of_none
    simp [Record.node?, (record_spec made).2.2]
  | pdu made => exact forall₂_nodesOf_of_none (node?_eq_none_of_properties (record_spec made).2.2)
  | @enclosure kind _ _ around _ made =>
    have hnone : (ctx.kind? row (.node kind)).bind (nodeProperties? nid) = none := by
      simp only [RackContext.kind?]
      rcases around with rfl | henclosure
      · -- a node of the system is recorded by its enclosure and has no properties
        split <;> rfl
      · rw [if_pos henclosure]
        rfl
    rw [hnone]
    exact forall₂_nodesOf_of_none (node?_eq_none_of_properties (createAs_spec made).2.2)
  | @node kind properties _ _ _ _ single recorded _ _ made =>
    obtain ⟨hxname, hclass, hproperties⟩ := record_spec made
    have hnode : RecordsNode ctx.applicationNodes properties r :=
      ⟨hclass, by rw [Record.node?, hproperties, hxname]⟩
    have hsome : r.node?.isSome = true := by
      rw [hnode.2]
      rfl
    simp [RackContext.kind?, single, recorded, nodesOf, hsome, hnode]

/-- The records that are made of a row have the node of its device. -/
theorem MakesPiece.recordsNode {piece : List Record} (hpiece : MakesPiece ctx nid row piece) :
    ∃ device, row.device ctx.applicationNodes = .ok device ∧
      List.Forall₂ (RecordsNode ctx.applicationNodes)
        ((ctx.kind? row device).bind (nodeProperties? nid)).toList (nodesOf piece) := by
  cases hpiece with
  | skipped reads skips =>
    refine ⟨_, reads, ?_⟩
    rw [nodeProperties?_of_skips skips]
    exact .nil
  | @recorded device _ r connector reads _ _ made _ connected =>
    have hplain : nodesOf connector.toList = [] := by
      refine List.filter_eq_nil_iff.mpr fun c hc => ?_
      simp [node?_connectorRecord (connected c (Option.mem_toList.mp hc))]
    refine ⟨device, reads, ?_⟩
    rw [← List.singleton_append, nodesOf_append, hplain, List.append_nil]
    exact made.recordsNode

end

/-- The records of a row have the node that the row is recorded as, and a management node
uses up a number. -/
theorem rowRecords_spec {ctx : RackContext} {nids later : NidSequence} {row : Row}
    {records : List Record} (hok : rowRecords ctx nids row = (.ok records, later)) :
    ∃ device, row.device ctx.applicationNodes = .ok device ∧
      List.Forall₂ (RecordsNode ctx.applicationNodes)
        ((ctx.kind? row device).bind (nodeProperties? nids.next)).toList (nodesOf records) ∧
      later = (ctx.kind? row device).elim nids (nidsAfter nids) := by
  obtain ⟨device, hdevice, hnodes⟩ := (makesPiece_rowRecords hok).recordsNode
  refine ⟨device, hdevice, hnodes, ?_⟩
  rw [nids_rowRecords hok hdevice]
  cases device with
  | node kind =>
    simp only [RackContext.kind?]
    cases henclosure : ctx.isEnclosure row <;> cases kind <;>
      simp [takesNid, henclosure, nidsAfter]
  | _ => rfl

/-- The records of rows have the nodes that the rows are recorded as, in their order. -/
theorem rowsRecords_spec {ctx : RackContext} {kind? : Row → Option NodeKind}
    (hkind : ∀ row device, row.device ctx.applicationNodes = .ok device →
      kind? row = ctx.kind? row device)
    {nids later : NidSequence} {rows : List Row} {records : List Record}
    (hok : rowsRecords ctx nids rows = (.ok records, later)) :
    List.Forall₂ (RecordsNode ctx.applicationNodes) (numberedNodes nids (rows.filterMap kind?))
      (nodesOf records) := by
  induction rows generalizing nids records with
  | nil =>
    cases hok
    exact .nil
  | cons row rest ih =>
    obtain ⟨first, next, more, hrow, hrest, rfl⟩ := rowsRecords_cons_eq_ok.mp hok
    obtain ⟨device, hdevice, hnodes, rfl⟩ := rowRecords_spec hrow
    have hmore := ih hrest
    rw [nodesOf_append, List.filterMap_cons, hkind row device hdevice]
    cases hk : ctx.kind? row device with
    | none =>
      rw [hk] at hnodes hmore
      rw [List.forall₂_nil_left_iff.mp hnodes]
      exact hmore
    | some kind =>
      rw [hk] at hnodes hmore
      exact List.rel_append hnodes hmore

/-- The records of racks have the nodes that the rows are recorded as. -/
theorem rackHardware_spec {inputs : Inputs} {nids later : Nids} {rows : List Row}
    {records : List Record}
    (hok : rackHardware inputs nids rows = (.ok records, later)) :
    later.liquidCooled = nids.liquidCooled ∧
      List.Forall₂ (RecordsNode inputs.applicationNodes)
        (numberedNodes nids.management (recordedKinds inputs.applicationNodes rows))
        (nodesOf records) := by
  unfold rackHardware at hok
  split at hok
  · cases hok
  next known hknown =>
  simp only [Prod.mk.injEq] at hok
  obtain ⟨hrecords, rfl⟩ := hok
  refine ⟨rfl, rowsRecords_spec ?_ (Prod.ext hrecords rfl)⟩
  intro row device hdevice
  delta recordedKind?
  rw [hdevice]
  cases device with
  | node kind =>
    simp only [RackContext.kind?, RackContext.isEnclosure, contains_enclosures hknown row]
  | _ => rfl

end SitePlan.Synthesis
