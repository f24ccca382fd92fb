import SitePlan.Proofs.Synthesis.Enclosures

/-!
# Rows without hardware

Doors, management switches and unknown devices have no records. Where they are not enclosures
and name none, their rows can be left out of the cabling sheet without changing the records of the
others. The one thing that is read of such a row besides its name is the rack of an unknown
device: it must be that of a cabinet, although nothing is recorded there.
-/

namespace SitePlan.Synthesis

open Cabling Hardware Outcome

/-- The row is that of a door, of a management switch or of an unknown device, names no enclosure,
and is not named as one. -/
def isInert (config : ApplicationNode.Config) (rows : List Row) (row : Row) : Bool :=
  (match row.device config with
    | .ok .door | .ok .mgmtSwitch | .ok (.node .unknown) => true
    | _ => false) && !row.hasParent && !isNamedEnclosure rows row

/-- The rows that are not inert. -/
def activeRows (config : ApplicationNode.Config) (rows : List Row) : List Row :=
  rows.filter fun row => !isInert config rows row

/-- If the device of the row is unknown, its rack can be read. -/
def RackReads (config : ApplicationNode.Config) (row : Row) : Prop :=
  row.device config = .ok (.node .unknown) →
    ∃ rack, row.rack "rack" row.sourceRack = .ok rack

/-! ### One row -/

section

variable {ctx : RackContext} {rows : List Row} {row : Row}

/-- The device of an inert row is a door, a management switch or unknown. -/
theorem device_of_isInert {config : ApplicationNode.Config}
    (hinert : isInert config rows row = true) :
    row.device config = .ok .door ∨ row.device config = .ok .mgmtSwitch ∨
      row.device config = .ok (.node .unknown) := by
  simp only [isInert, Bool.and_eq_true] at hinert
  obtain ⟨⟨hdevice, _⟩, _⟩ := hinert
  split at hdevice
  · next h => exact .inl h
  · next h => exact .inr (.inl h)
  · next h => exact .inr (.inr h)
  · cases hdevice

/-- An unknown device that is no enclosure has no record and uses up no number. -/
theorem rowRecords_unknown (hdevice : row.device ctx.applicationNodes = .ok (.node .unknown))
    (hsingle : ctx.isEnclosure row = false) {rack : UInt32}
    (hrack : row.rack "rack" row.sourceRack = .ok rack) (nids : NidSequence) :
    rowRecords ctx nids row = (.ok [], nids) := by
  have hrecords : recordsInRack ctx row rack nids.next (.node .unknown) = .ok [] := by
    simp only [recordsInRack, deviceRecord?, hsingle, nodeProperties?]
    rfl
  unfold rowRecords
  simp only [hdevice, hrack, NidSequence.take, hrecords, takesNid]
  rfl

/-- A row that gives no records and takes no number gives them exactly if the rack reads. -/
theorem rowRecords_eq_ok_of_isInert (hnamed : ctx.isEnclosure row = isNamedEnclosure rows row)
    (hinert : isInert ctx.applicationNodes rows row = true) {nids later : NidSequence}
    {piece : List Record} :
    rowRecords ctx nids row = (.ok piece, later) ↔
      piece = [] ∧ later = nids ∧ RackReads ctx.applicationNodes row := by
  have hsame : (Except.ok (ε := Error) ([] : List Record), nids) = (.ok piece, later) ↔
      piece = [] ∧ later = nids := by
    simp only [Prod.mk.injEq, Except.ok.injEq, eq_comm]
  rcases device_of_isInert hinert with hdevice | hdevice | hdevice
  · have hread : RackReads ctx.applicationNodes row := by simp [RackReads, hdevice]
    unfold rowRecords
    simp only [hdevice, hsame, hread, and_true]
  · have hread : RackReads ctx.applicationNodes row := by simp [RackReads, hdevice]
    unfold rowRecords
    simp only [hdevice, hsame, hread, and_true]
  · have hsingle : ctx.isEnclosure row = false := by
      simp only [isInert, Bool.and_eq_true, Bool.not_eq_true'] at hinert
      exact hnamed.trans hinert.2
    cases hrack : row.rack "rack" row.sourceRack with
    | error fault =>
      unfold rowRecords
      simp [hdevice, hrack, RackReads]
    | ok rack =>
      rw [rowRecords_unknown hdevice hsingle hrack, hsame]
      simp [RackReads, hrack]

end

/-! ### A run over rows -/

section

variable {ctx : RackContext} {nids : NidSequence} {row : Row} {rest rows : List Row}
  {records : List Record}

/-- A run over rows makes records when its first row does and the rest does after it. -/
theorem fst_rowsRecords_cons_eq_ok :
    (rowsRecords ctx nids (row :: rest)).1 = .ok records ↔ ∃ piece later more,
      rowRecords ctx nids row = (.ok piece, later) ∧ (rowsRecords ctx later rest).1 = .ok more ∧
        records = piece ++ more := by
  constructor
  · intro hok
    generalize hrun : rowsRecords ctx nids (row :: rest) = run at hok
    obtain ⟨outcome, last⟩ := run
    obtain rfl : outcome = .ok records := hok
    obtain ⟨piece, later, more, hpiece, hmore, hrecords⟩ := rowsRecords_cons_eq_ok.mp hrun
    exact ⟨piece, later, more, hpiece, congrArg Prod.fst hmore, hrecords⟩
  · rintro ⟨piece, later, more, hpiece, hmore, hrecords⟩
    have hrest : rowsRecords ctx later rest = (.ok more, (rowsRecords ctx later rest).2) :=
      Prod.ext hmore rfl
    have hrun := rowsRecords_cons_eq_ok.mpr ⟨piece, later, more, hpiece, hrest, hrecords⟩
    exact congrArg Prod.fst hrun

/-- Rows that give no records and take no numbers can be left out of a run, where each of them
passes its test. -/
theorem rowsRecords_filter {keep : Row → Bool} {test : Row → Prop}
    (hdropped : ∀ row ∈ rows, keep row = false → ∀ nids piece later,
      rowRecords ctx nids row = (.ok piece, later) ↔ piece = [] ∧ later = nids ∧ test row) :
    (rowsRecords ctx nids rows).1 = .ok records ↔
      (rowsRecords ctx nids (rows.filter keep)).1 = .ok records ∧
        ∀ row ∈ rows, keep row = false → test row := by
  induction rows generalizing nids records with
  | nil => simp
  | cons row rest ih =>
    rw [List.forall_mem_cons] at hdropped
    obtain ⟨hrow, hrest⟩ := hdropped
    rw [List.forall_mem_cons, fst_rowsRecords_cons_eq_ok]
    by_cases hkeep : keep row = true
    · rw [List.filter_cons_of_pos hkeep, fst_rowsRecords_cons_eq_ok]
      simp only [ih hrest, hkeep]
      constructor
      · rintro ⟨piece, later, more, hpiece, ⟨hmore, htests⟩, hrecords⟩
        exact ⟨⟨piece, later, more, hpiece, hmore, hrecords⟩, by simp, htests⟩
      · rintro ⟨⟨piece, later, more, hpiece, hmore, hrecords⟩, _, htests⟩
        exact ⟨piece, later, more, hpiece, ⟨hmore, htests⟩, hrecords⟩
    · have hdrop : keep row = false := by simpa using hkeep
      rw [List.filter_cons_of_neg hkeep]
      simp only [hrow hdrop, ih hrest]
      constructor
      · rintro ⟨piece, later, more, ⟨rfl, rfl, htest⟩, ⟨hmore, htests⟩, rfl⟩
        exact ⟨hmore, fun _ => htest, htests⟩
      · rintro ⟨hmore, htest, htests⟩
        exact ⟨[], nids, records, ⟨rfl, rfl, htest hdrop⟩, ⟨hmore, htests⟩, rfl⟩

end

/-! ### The records in racks -/

section

variable {inputs : Inputs} {nids : Nids} {rows : List Row}

/-- Inert rows do not matter to enclosures. -/
theorem enclosures_activeRows (config : ApplicationNode.Config) :
    enclosures (activeRows config rows) = enclosures rows := by
  refine enclosures_filter (fun row _ hparent => ?_) fun row _ hnamed => ?_
  · simp [isInert, hparent]
  · simp [isInert, hnamed]

/-- Records can be made from a sheet exactly if they can be made without its inert rows, and the
rack of each inert row of an unknown device can be read. -/
theorem rackHardware_activeRows {records : List Record} :
    (rackHardware inputs nids rows).1 = .ok records ↔
      (rackHardware inputs nids (activeRows inputs.applicationNodes rows)).1 = .ok records ∧
        ∀ row ∈ rows, isInert inputs.applicationNodes rows row = true →
          RackReads inputs.applicationNodes row := by
  unfold rackHardware
  rw [enclosures_activeRows]
  cases hknown : enclosures rows with
  | error fault => simp
  | ok known =>
    let ctx : RackContext := ⟨inputs.applicationNodes, switchesByLocation inputs.switches, known⟩
    have hdropped : ∀ row ∈ rows, (!isInert inputs.applicationNodes rows row) = false →
        ∀ nids piece later, rowRecords ctx nids row = (.ok piece, later) ↔
          piece = [] ∧ later = nids ∧ RackReads inputs.applicationNodes row := by
      intro row _ hdrop nids piece later
      have hinert : isInert ctx.applicationNodes rows row = true := by simpa using hdrop
      have hnamed : ctx.isEnclosure row = isNamedEnclosure rows row :=
        contains_enclosures hknown row
      exact rowRecords_eq_ok_of_isInert hnamed hinert
    have hrun : (rowsRecords ctx nids.management rows).1 = .ok records ↔ _ :=
      rowsRecords_filter hdropped
    simp only [Bool.not_eq_false'] at hrun
    exact hrun

/-- Rows without hardware are harmless as far as their racks can be read. The records of a sheet
are those of the sheet without its inert rows, if the rack of each inert row of an unknown device
can be read, and else there are none. So leaving out the inert rows changes nothing exactly if
their racks can be read or no records can be made without them either. -/
theorem inertRows_harmless_iff :
    (∀ records, (rackHardware inputs nids rows).1 = .ok records ↔
      (rackHardware inputs nids (activeRows inputs.applicationNodes rows)).1 = .ok records ∧
        ∀ row ∈ rows, isInert inputs.applicationNodes rows row = true →
          RackReads inputs.applicationNodes row) ∧
    ((∀ records, (rackHardware inputs nids rows).1 = .ok records ↔
        (rackHardware inputs nids (activeRows inputs.applicationNodes rows)).1 = .ok records) ↔
      ((∃ records, (rackHardware inputs nids
          (activeRows inputs.applicationNodes rows)).1 = .ok records) →
        ∀ row ∈ rows, isInert inputs.applicationNodes rows row = true →
          RackReads inputs.applicationNodes row)) := by
  refine ⟨fun _ => rackHardware_activeRows, ⟨?_, ?_⟩⟩
  · rintro hsame ⟨records, hactive⟩
    have hall := (hsame records).mpr hactive
    exact (rackHardware_activeRows.mp hall).2
  · intro hracks records
    rw [rackHardware_activeRows]
    exact and_iff_left_of_imp fun hactive => hracks ⟨records, hactive⟩

end

/-- An unknown device whose rack is left blank. -/
def strayRow : Row := { source := "mystery-box", sourceLocation := "u30" }

/-- Inert rows are not always harmless: no records can be made from a sheet with an unknown device
whose rack is left blank, although those of the empty sheet can. -/
theorem not_forall_inertRows_harmless :
    ¬ ∀ (inputs : Inputs) (rows : List Row) (records : List Record),
      (rackHardware inputs {} rows).1 = .ok records ↔
        (rackHardware inputs {} (activeRows inputs.applicationNodes rows)).1 = .ok records := by
  intro hall
  have hactive : activeRows ({} : Inputs).applicationNodes [strayRow] = [] := by decide +kernel
  have hempty : (rackHardware {} {} []).1 = .ok [] := rfl
  have hok := (hall {} [strayRow] []).mpr (by rw [hactive, hempty])
  have hfault : (rackHardware {} {} [strayRow]).1.isOk = false := by decide +kernel
  rw [hok] at hfault
  cases hfault

end SitePlan.Synthesis
