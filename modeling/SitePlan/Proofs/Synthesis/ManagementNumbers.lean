import SitePlan.Proofs.Synthesis.HostNames

/-!
# The numbers of management nodes

The management nodes in racks are numbered in the order of the cabling sheet. A row takes a number
exactly if it is of a management node and no row names it as an enclosure, whatever rows stand
around it, and what its record says of the node beyond the number is in the name of the row.
-/

namespace SitePlan

namespace Synthesis

open Cabling Hardware Outcome

/-- The device is a management node. -/
def isManagementDevice : Device → Bool
  | .node (.management ..) => true
  | _ => false

/-- The row is of a management node that no row names as its enclosure. -/
def isManagementRow (config : ApplicationNode.Config) (rows : List Row) (row : Row) : Bool :=
  (row.device config).toOption.any isManagementDevice && !isNamedEnclosure rows row

/-- The rows of management nodes that no row names as their enclosure. -/
def managementRows (config : ApplicationNode.Config) (rows : List Row) : List Row :=
  rows.filter (isManagementRow config rows)

/-- The record is of a management node. -/
def isManagementRecord (r : Record) : Bool := r.node?.any fun p => p.role = .management

/-- The records of management nodes. -/
def managementRecords (records : List Record) : List Record := records.filter isManagementRecord

/-- The row is of a management node, and its name begins with the letters of the node's role and
goes on with the digits of its number. -/
structure NamesManagement (config : ApplicationNode.Config) (row : Row) (role : ManagementRole)
    (number : UInt32) : Prop where
  /-- The row is classified as that of the management node. -/
  device_eq : row.device config = .ok (.node (.management role number))
  /-- The letters stand for the role, and the digits behind them for the number. -/
  digits : ∃ digits, digitsAfter? role.stem row.key.toList = some digits ∧
    uint32? digits = some number

/-- What is said of the management node with this number in the system, which has this role and
number in its name. -/
structure IsManagement (role : ManagementRole) (number : UInt32) (nid : UInt64)
    (p : NodeProperties) : Prop where
  role_eq : p.role = .management
  nid_eq : p.nid = some nid
  subRole_eq : p.subRole = some role.subRole
  /-- The first host name is that of the role and the number in the name of the row. -/
  head?_aliases : p.aliases.head? = some (role.hostName number)

/-- The record is of the management node of a row, under this number. -/
def RecordsManagement (config : ApplicationNode.Config) (row : Row) (nid : UInt64)
    (r : Record) : Prop :=
  ∃ role number p, NamesManagement config row role number ∧ r.node? = some p ∧
    IsManagement role number nid p

/-! ### The name of a management node -/

/-- The letters of the role of a management node are in front of the digits of its number. -/
theorem digitsAfter?_of_management? {name digits : List Char} {role : ManagementRole}
    (hname : management? name = some (role, digits)) :
    digitsAfter? role.stem name = some digits := by
  obtain ⟨other, _, hother⟩ := List.exists_of_findSome?_eq_some hname
  obtain ⟨found, hfound, heq⟩ := Option.map_eq_some_iff.mp hother
  cases heq
  exact hfound

/-- A row that is of a management node is named for its role and number. -/
theorem namesManagement_of_device {config : ApplicationNode.Config} {row : Row}
    {role : ManagementRole} {number : UInt32}
    (hdevice : row.device config = .ok (.node (.management role number))) :
    NamesManagement config row role number := by
  refine ⟨hdevice, ?_⟩
  -- Only the last rule makes a row one of a node, and only its first case one of management.
  have hkind : row.nodeKind config = .ok (.management role number) := by
    unfold Row.device at hdevice
    dsimp only at hdevice
    split at hdevice
    · obtain ⟨_, _, hrouter⟩ := map_eq_ok.mp hdevice
      cases hrouter
    · split at hdevice
      · split at hdevice <;> cases hdevice
      · split_ifs at hdevice
        · cases hdevice
        · cases hdevice
        · obtain ⟨kind, hkind, heq⟩ := map_eq_ok.mp hdevice
          cases heq
          exact hkind
  unfold Row.nodeKind at hkind
  dsimp only at hkind
  split at hkind
  · next role' digits hname =>
    split at hkind
    · next number' hnumber =>
      cases hkind
      exact ⟨digits, digitsAfter?_of_management? hname, hnumber⟩
    · cases hkind
  · split_ifs at hkind <;> split at hkind <;> cases hkind

/-! ### The records of a row -/

/-- Joined lists have the management nodes of each. -/
theorem managementRecords_append (records more : List Record) :
    managementRecords (records ++ more) = managementRecords records ++ managementRecords more :=
  List.filter_append ..

/-- Management nodes are nodes. -/
theorem managementRecords_nodesOf (records : List Record) :
    managementRecords (nodesOf records) = managementRecords records := by
  unfold managementRecords nodesOf
  rw [List.filter_filter]
  apply List.filter_congr
  intro r _
  cases hnode : r.node? <;> simp [isManagementRecord, hnode]

/-- A record of a node in a rack is of a management node exactly if the row says so. -/
theorem RecordsNode.isManagementRecord {config : ApplicationNode.Config} {p : NodeProperties}
    {r : Record} (hr : RecordsNode config p r) :
    isManagementRecord r = decide (p.role = .management) := by
  rw [Synthesis.isManagementRecord, hr.2]
  rfl

/-- The record of a management node has its number, and its first host name remains the first one
when the site gives it more. -/
theorem RecordsNode.recordsManagement {config : ApplicationNode.Config} {row : Row}
    {role : ManagementRole} {number : UInt32} {nid : UInt64} {r : Record}
    (hname : NamesManagement config row role number)
    (hr : RecordsNode config ⟨some nid, .management, some role.subRole, [role.hostName number]⟩ r) :
    RecordsManagement config row nid r := by
  obtain ⟨added, hadded⟩ := addNames_eq_append [role.hostName number] (config.aliasesFor r.xname)
  refine ⟨role, number, _, hname, hr.2, rfl, rfl, rfl, ?_⟩
  rw [hadded]
  rfl

section

variable {ctx : RackContext} {nids later : NidSequence}

/-- The records of a row have the management node that the row is recorded as. -/
theorem forall₂_managementRecords {row : Row} {records : List Record} {device : Device}
    (hok : rowRecords ctx nids row = (.ok records, later))
    (hdevice : row.device ctx.applicationNodes = .ok device) :
    List.Forall₂ (RecordsNode ctx.applicationNodes)
      (((ctx.kind? row device).bind (nodeProperties? nids.next)).toList.filter
        fun p => p.role = .management)
      (managementRecords records) := by
  obtain ⟨device', hdevice', hnodes, _⟩ := rowRecords_spec hok
  obtain rfl : device = device' := Except.ok.inj (hdevice.symm.trans hdevice')
  rw [← managementRecords_nodesOf]
  exact List.rel_filter (fun _ _ hr => Bool.eq_iff_iff.mp hr.isManagementRecord.symm) hnodes

/-- A row takes a number exactly if it is of a management node and its device is no enclosure. -/
theorem takesNid_iff {row : Row} {device : Device} :
    takesNid ctx row device = true ↔
      ∃ role number, device = .node (.management role number) ∧ ctx.isEnclosure row = false := by
  cases device with
  | node kind => cases kind <;> simp [takesNid]
  | _ => simp [takesNid]

/-- A device that takes no number is not recorded as a management node. -/
theorem filter_role_of_not_takesNid {row : Row} {device : Device} (nid : UInt64)
    (htakes : takesNid ctx row device = false) :
    (((ctx.kind? row device).bind (nodeProperties? nid)).toList.filter
      fun p => p.role = .management) = [] := by
  cases device with
  | node kind =>
    cases henclosure : ctx.isEnclosure row with
    | true => simp [RackContext.kind?, henclosure]
    | false =>
      cases kind with
      | management => simp [takesNid, henclosure] at htakes
      | _ => simp [RackContext.kind?, henclosure, nodeProperties?]
  | _ => rfl

/-- A row that takes a number has one record of a management node, which is under the number that
is next, and another row has none and leaves the numbers as they are. -/
theorem rowRecords_management {row : Row} {records : List Record} {device : Device}
    (hok : rowRecords ctx nids row = (.ok records, later))
    (hdevice : row.device ctx.applicationNodes = .ok device) :
    (takesNid ctx row device = true ∧ later = nids.skip 1 ∧
      ∃ r, managementRecords records = [r] ∧
        RecordsManagement ctx.applicationNodes row nids.next r) ∨
    (takesNid ctx row device = false ∧ later = nids ∧ managementRecords records = []) := by
  have hlater := nids_rowRecords hok hdevice
  have hrecords := forall₂_managementRecords hok hdevice
  cases htakes : takesNid ctx row device with
  | true =>
    obtain ⟨role, number, rfl, hsingle⟩ := takesNid_iff.mp htakes
    simp only [RackContext.kind?, hsingle, Bool.false_eq_true, if_false, Option.bind_some,
      nodeProperties?, Option.toList_some, decide_true, List.filter_cons_of_pos,
      List.filter_nil] at hrecords
    obtain ⟨r, none, hr, hnone, hsplit⟩ := List.forall₂_cons_left_iff.mp hrecords
    obtain rfl := List.forall₂_nil_left_iff.mp hnone
    rw [htakes, if_pos rfl] at hlater
    exact .inl ⟨rfl, hlater, r, hsplit, hr.recordsManagement (namesManagement_of_device hdevice)⟩
  | false =>
    rw [filter_role_of_not_takesNid _ htakes, List.forall₂_nil_left_iff] at hrecords
    rw [htakes, if_neg Bool.false_ne_true] at hlater
    exact .inr ⟨rfl, hlater, hrecords⟩

/-- The rows that take numbers have the records of management nodes, in their order and numbered
without a gap, and all other rows leave the numbers as they are. -/
theorem rowsRecords_management {takes : Row → Bool}
    (htakes : ∀ row device, row.device ctx.applicationNodes = .ok device →
      takes row = takesNid ctx row device)
    {taken : Nat} {rows : List Row} {records : List Record}
    (hok : rowsRecords ctx (nids.skip taken) rows = (.ok records, later)) :
    List.Forall₂
      (fun place r => RecordsManagement ctx.applicationNodes place.1 (nids.skip place.2).next r)
      ((rows.filter takes).zipIdx taken) (managementRecords records) ∧
    later = nids.skip (taken + (rows.filter takes).length) := by
  induction rows generalizing taken records with
  | nil =>
    cases hok
    exact ⟨.nil, rfl⟩
  | cons row rest ih =>
    obtain ⟨first, next, more, hrow, hrest, rfl⟩ := rowsRecords_cons_eq_ok.mp hok
    obtain ⟨device, hdevice, _⟩ := rowRecords_spec hrow
    rw [List.filter_cons, htakes row device hdevice, managementRecords_append]
    rcases rowRecords_management hrow hdevice with
      ⟨htaken, rfl, r, hr, hrecords⟩ | ⟨htaken, rfl, hnone⟩
    · rw [NidSequence.skip_skip] at hrest
      obtain ⟨hmore, rfl⟩ := ih hrest
      rw [if_pos htaken, hr, List.zipIdx_cons, List.length_cons]
      exact ⟨.cons hrecords hmore, by rw [Nat.add_assoc, Nat.add_comm 1]⟩
    · obtain ⟨hmore, rfl⟩ := ih hrest
      rw [if_neg (by simp [htaken]), hnone]
      exact ⟨hmore, rfl⟩

end

/-- The number of a management node that is behind so many others. -/
theorem next_skip_firstManagementNid (count : Nat) :
    ((⟨firstManagementNid⟩ : NidSequence).skip count).next = (100001 + count).toUInt64 := by
  rw [NidSequence.skip, Nat.toUInt64_eq, Nat.toUInt64_eq, UInt64.ofNat_add]
  rfl

/-- A row is of a management node that no row names as its enclosure exactly if it takes a number
where the enclosures are those that rows name. -/
theorem isManagementRow_eq_takesNid {ctx : RackContext} {rows : List Row}
    (hknown : enclosures rows = .ok ctx.enclosures) {row : Row} {device : Device}
    (hdevice : row.device ctx.applicationNodes = .ok device) :
    isManagementRow ctx.applicationNodes rows row = takesNid ctx row device := by
  have hnamed : ctx.isEnclosure row = isNamedEnclosure rows row := contains_enclosures hknown row
  rw [isManagementRow, hdevice, ← hnamed]
  cases device with
  | node kind => cases kind <;> rfl
  | _ => rfl

/-- Management nodes are numbered in the order of the rows. The records of management nodes are, in
their order, those of the rows of management nodes that no row names as their enclosure. They are
numbered without a gap from 100001 on, and have the role and as their first host name what the name
of the row says. No other row takes a number. -/
theorem managementRecords_follow_rows {inputs : Inputs} {first : UInt64} {rows : List Row}
    {records : List Record} {later : Nids}
    (hok : rackHardware inputs (.startingAt first) rows = (.ok records, later)) :
    List.Forall₂
      (fun place r =>
        RecordsManagement inputs.applicationNodes place.1 (100001 + place.2).toUInt64 r)
      (managementRows inputs.applicationNodes rows).zipIdx (managementRecords records) ∧
    later.management.next =
      (100001 + (managementRows inputs.applicationNodes rows).length).toUInt64 := by
  unfold rackHardware at hok
  split at hok
  · cases hok
  next known hread =>
  obtain ⟨hrecords, rfl⟩ := Prod.mk.inj hok
  let ctx : RackContext :=
    ⟨inputs.applicationNodes, switchesByLocation inputs.switches, known⟩
  have hknown : enclosures rows = .ok ctx.enclosures := hread
  have hrun : rowsRecords ctx ((⟨firstManagementNid⟩ : NidSequence).skip 0) rows =
      (.ok records, (rowsRecords ctx ⟨firstManagementNid⟩ rows).2) := by
    rw [NidSequence.skip_zero]
    exact Prod.ext hrecords rfl
  have htakes : ∀ row device, row.device ctx.applicationNodes = .ok device →
      isManagementRow inputs.applicationNodes rows row = takesNid ctx row device :=
    fun row device hdevice => isManagementRow_eq_takesNid hknown hdevice
  obtain ⟨hrows, hlater⟩ := rowsRecords_management htakes hrun
  simp only [next_skip_firstManagementNid, Nat.zero_add] at hrows hlater
  exact ⟨hrows, (congrArg NidSequence.next hlater).trans (next_skip_firstManagementNid _)⟩

/-- Three management nodes among a door, an unknown device, a compute node, and the storage node
that this names as its enclosure. -/
def mixedSheet : List Row := [
  { source := "mn01", sourceRack := "x3000", sourceLocation := "u01" },
  { source := "x3000door-Motiv", sourceRack := "front" },
  { source := "sn07", sourceRack := "x3000", sourceLocation := "u20" },
  { source := "WN-12", sourceRack := "x3000", sourceLocation := "u25" },
  { source := "wn12", sourceRack := "x3000", sourceLocation := "u03" },
  { source := "nid000001", sourceRack := "x3000", sourceParent := "SN07" },
  { source := " SN1", sourceRack := "x3000", sourceLocation := "u05" }]

/-- The management nodes of the mixed sheet are numbered around its other rows. -/
theorem managementRecords_follow_rows_mixedSheet :
    ∃ records later, rackHardware {} (.startingAt 1000) mixedSheet = (.ok records, later) ∧
      (managementRows {} mixedSheet).map Row.source = ["mn01", "wn12", " SN1"] ∧
      List.Forall₂
        (fun place r => RecordsManagement {} place.1 (100001 + place.2).toUInt64 r)
        (managementRows {} mixedSheet).zipIdx (managementRecords records) ∧
      later.management.next = (100001 + (managementRows {} mixedSheet).length).toUInt64 ∧
      (managementRecords records).map (fun r => (r.xname, r.node?)) = [
        ("x3000c0s1b0n0", some ⟨some 100001, .management, some "Master", ["ncn-m001"]⟩),
        ("x3000c0s3b0n0", some ⟨some 100002, .management, some "Worker", ["ncn-w012"]⟩),
        ("x3000c0s5b0n0", some ⟨some 100003, .management, some "Storage", ["ncn-s001"]⟩)] := by
  obtain ⟨records, hrecords, hnodes⟩ : ∃ records,
      (rackHardware {} (.startingAt 1000) mixedSheet).1 = .ok records ∧
        decide ((managementRecords records).map (fun r => (r.xname, r.node?)) = [
          ("x3000c0s1b0n0", some ⟨some 100001, .management, some "Master", ["ncn-m001"]⟩),
          ("x3000c0s3b0n0", some ⟨some 100002, .management, some "Worker", ["ncn-w012"]⟩),
          ("x3000c0s5b0n0", some ⟨some 100003, .management, some "Storage", ["ncn-s001"]⟩)]) =
          true :=
    exists_of_toOption_any (by decide +kernel)
  have hok : rackHardware {} (.startingAt 1000) mixedSheet =
      (.ok records, (rackHardware {} (.startingAt 1000) mixedSheet).2) := Prod.ext hrecords rfl
  obtain ⟨hrows, hlater⟩ := managementRecords_follow_rows hok
  exact ⟨records, _, hok, by decide +kernel, hrows, hlater, of_decide_eq_true hnodes⟩

end Synthesis

end SitePlan
