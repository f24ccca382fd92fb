import SitePlan.Proofs.Hardware.Filing
import SitePlan.Proofs.Synthesis.Enclosures
import SitePlan.Proofs.Synthesis.RecordRuns

/-!
# The order of rows

Rows of the cabling sheet refer to each other by name, so a row may stand before or after the
enclosure that it names. Where no management nodes are counted, each row gives its records on its
own, and the inventory of a sheet does not depend on the order of its rows.
-/

namespace SitePlan.Synthesis

open Cabling Hardware Outcome

/-! ### Records -/

/-- The row is not that of a management node. -/
def IsUnmanaged (config : ApplicationNode.Config) (row : Row) : Prop :=
  ∀ role number, row.device config ≠ .ok (.node (.management role number))

/-- Rows of other devices use up no numbers. -/
theorem rowRecords_of_isUnmanaged (ctx : RackContext) {row : Row}
    (hrow : IsUnmanaged ctx.applicationNodes row) (nids : NidSequence) :
    (rowRecords ctx nids row).2 = nids := by
  unfold rowRecords
  split
  · rfl
  · rfl
  · rfl
  · next device _ _ hdevice =>
    split
    · rfl
    · have htakes : takesNid ctx row device = false := by
        cases device with
        | node kind =>
          cases kind with
          | management role number => exact absurd hdevice (hrow role number)
          | _ => rfl
        | _ => rfl
      simp only [NidSequence.take, htakes, Bool.false_eq_true, if_false]

/-- Rows that use up no number have the records of each row. -/
theorem rowsRecords_of_isUnmanaged (ctx : RackContext) {rows : List Row}
    (hrows : ∀ row ∈ rows, IsUnmanaged ctx.applicationNodes row) (nids : NidSequence) :
    rowsRecords ctx nids rows =
      ((rows.mapM fun row => (rowRecords ctx nids row).1).map List.flatten, nids) :=
  recordsOfEach_eq_mapM fun row hrow => rowRecords_of_isUnmanaged ctx (hrows row hrow) nids

/-- The order of rows does not matter to the records that they give, but for that of the
records. -/
theorem exists_rowsRecords_perm (ctx : RackContext) {nids : NidSequence} {rows rows' : List Row}
    (hperm : rows.Perm rows') (hrows : ∀ row ∈ rows, IsUnmanaged ctx.applicationNodes row)
    {records : List Record} (hok : (rowsRecords ctx nids rows).1 = .ok records) :
    ∃ records', (rowsRecords ctx nids rows').1 = .ok records' ∧ records.Perm records' := by
  rw [rowsRecords_of_isUnmanaged ctx hrows, map_eq_ok] at hok
  obtain ⟨pieces, hpieces, rfl⟩ := hok
  obtain ⟨pieces', hpieces', hpermuted⟩ := exists_mapM_perm hperm hpieces
  refine ⟨pieces'.flatten, ?_, hpermuted.flatten⟩
  have hrows' := fun row hrow => hrows row (hperm.mem_iff.mpr hrow)
  rw [rowsRecords_of_isUnmanaged ctx hrows', hpieces']
  rfl

/-- Where no row uses up a number, all numbers are left. -/
theorem nids_rackHardware {inputs : Inputs} {nids : Nids} {rows : List Row}
    (hrows : ∀ row ∈ rows, IsUnmanaged inputs.applicationNodes row) :
    (rackHardware inputs nids rows).2 = nids := by
  unfold rackHardware
  split
  · rfl
  · next known _ =>
    dsimp only
    rw [rowsRecords_of_isUnmanaged
      ⟨inputs.applicationNodes, switchesByLocation inputs.switches, known⟩ hrows]

/-- The order of rows does not matter to the records of racks, but for that of the records. -/
theorem exists_rackHardware_perm {inputs : Inputs} {nids : Nids} {rows rows' : List Row}
    (hperm : rows.Perm rows') (hnames : (rows.map Row.key).Nodup)
    (hrows : ∀ row ∈ rows, IsUnmanaged inputs.applicationNodes row) {records : List Record}
    (hok : (rackHardware inputs nids rows).1 = .ok records) :
    ∃ records', (rackHardware inputs nids rows').1 = .ok records' ∧ records.Perm records' := by
  unfold rackHardware at hok ⊢
  cases hknown : enclosures rows with
  | error fault =>
    rw [hknown] at hok
    cases hok
  | ok known =>
    rw [hknown] at hok
    rw [(enclosures_perm hperm hnames).mp hknown]
    exact exists_rowsRecords_perm
      ⟨inputs.applicationNodes, switchesByLocation inputs.switches, known⟩ hperm hrows hok

/-! ### Inventories -/

variable {inputs : Inputs} {nids : Nids} {rows rows' : List Row}

/-- An inventory of rows is one of the same rows in another order. -/
theorem inventory_of_perm (hperm : rows.Perm rows') (hnames : (rows.map Row.key).Nodup)
    (hrows : ∀ row ∈ rows, IsUnmanaged inputs.applicationNodes row) {filed : Inventory}
    (hok : (inventory inputs nids rows).1 = .ok filed) :
    (inventory inputs nids rows').1 = .ok filed := by
  have hrows' : ∀ row ∈ rows', IsUnmanaged inputs.applicationNodes row :=
    fun row hrow => hrows row (hperm.mem_iff.mpr hrow)
  obtain ⟨switches, first, racks, second, cabinets, hswitches, hfirst, hracks, hsecond,
    hcabinets, hthird⟩ := inventory_eq_ok.mp hok
  obtain ⟨racks', hracks', hpermuted⟩ := exists_rackHardware_perm hperm hnames hrows hracks
  rw [nids_rackHardware hrows] at hcabinets
  exact inventory_eq_ok.mpr ⟨switches, first, racks', second, cabinets, hswitches, hfirst,
    hracks', (file_perm hpermuted).mp hsecond, by rwa [nids_rackHardware hrows'], hthird⟩

/-- The order of rows does not matter. If no row is that of a management node and no two rows
are of one name, then an inventory can be made of the rows exactly if it can be made of the same
rows in another order, and it is the same. -/
theorem inventory_perm (hperm : rows.Perm rows') (hnames : (rows.map Row.key).Nodup)
    (hrows : ∀ row ∈ rows, IsUnmanaged inputs.applicationNodes row) (filed : Inventory) :
    (inventory inputs nids rows).1 = .ok filed ↔ (inventory inputs nids rows').1 = .ok filed := by
  refine ⟨inventory_of_perm hperm hnames hrows, inventory_of_perm hperm.symm ?_ ?_⟩
  · exact (hperm.map Row.key).nodup_iff.mp hnames
  · exact fun row hrow => hrows row (hperm.mem_iff.mpr hrow)

/-- A rack. -/
def shelvedSite : Inputs where
  cabinets := [{ kind := "river", details := [.ofId 3000] }]

/-- Nodes of a rack; the enclosure of the first one comes last. -/
def shelvedSheet : List Row := [
  { source := "nid000001", sourceRack := "x3000", sourceLocation := "u17",
    sourceParent := "cmc-1" },
  { source := "uan01", sourceRack := "x3000", sourceLocation := "u20" },
  { source := "cmc-1", sourceRack := "x3000", sourceLocation := "u17" }]

/-- The rack has the same inventory if the enclosure comes first. -/
theorem inventory_perm_shelvedSheet :
    ∃ filed, (inventory shelvedSite (.startingAt 1000) shelvedSheet).1 = .ok filed ∧
      filed.values.length = 3 ∧
      (inventory shelvedSite (.startingAt 1000) shelvedSheet.reverse).1 = .ok filed := by
  obtain ⟨filed, hok, hthree⟩ : ∃ filed,
      (inventory shelvedSite (.startingAt 1000) shelvedSheet).1 = .ok filed ∧
        decide (filed.values.length = 3) = true :=
    exists_of_toOption_any (by decide +kernel)
  have hdevices : (shelvedSheet.map fun row => (row.device shelvedSite.applicationNodes).toOption) =
      [some (.node (.compute 1)), some (.node (.application (some "UAN"))),
        some (.node .system)] := by decide +kernel
  refine ⟨filed, hok, of_decide_eq_true hthree, ?_⟩
  refine (inventory_perm (List.reverse_perm _).symm (by decide +kernel) ?_ filed).mp hok
  intro row hrow role number hdevice
  have hmem := List.mem_map_of_mem (f := fun row : Row =>
    (row.device shelvedSite.applicationNodes).toOption) hrow
  rw [hdevices] at hmem
  simp [hdevice, Except.toOption] at hmem

end SitePlan.Synthesis
