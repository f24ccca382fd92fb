import SitePlan.Proofs.Synthesis.RackNodes

/-!
# The records of each row

The records in racks are those of the rows of the cabling sheet, one row after another. A row of
a door, of a management switch or of an unknown device that is no enclosure has none. Any other
row has the record of its device in the row's rack and, if it is cabled, that of the connector
behind it, so no row is lost silently.
-/

namespace SitePlan.Synthesis

open Cabling Hardware Outcome Xname

/-- The records of rows row by row, up to the first row that gives none for a fault. -/
def rowPieces (ctx : RackContext) (nids : NidSequence) :
    List Row → Except Error (List (List Record))
  | [] => .ok []
  | row :: rest =>
    match rowRecords ctx nids row with
    | (.error fault, _) => .error fault
    | (.ok piece, later) => (rowPieces ctx later rest).map (piece :: ·)

/-- The records in racks row by row. -/
def rackPieces (inputs : Inputs) (nids : Nids) (rows : List Row) :
    Except Error (List (List Record)) :=
  match enclosures rows with
  | .error fault => .error fault
  | .ok known =>
    rowPieces ⟨inputs.applicationNodes, switchesByLocation inputs.switches, known⟩
      nids.management rows

/-- The records of rows are those of each row, one after another. -/
theorem rowsRecords_eq_flatten (ctx : RackContext) (nids : NidSequence) (rows : List Row) :
    (rowsRecords ctx nids rows).1 = (rowPieces ctx nids rows).map List.flatten := by
  induction rows generalizing nids with
  | nil => rfl
  | cons row rest ih =>
    rw [rowsRecords, recordsOfEach_cons, rowPieces]
    cases hrow : rowRecords ctx nids row with
    | mk outcome later =>
      cases outcome with
      | error fault => rfl
      | ok piece =>
        have hrest := ih later
        rw [rowsRecords] at hrest
        dsimp only
        generalize recordsOfEach (rowRecords ctx) later rest = run at hrest ⊢
        obtain ⟨more, last⟩ := run
        obtain rfl : more = _ := hrest
        cases rowPieces ctx later rest <;> rfl

/-- The records in racks are those of each row, one after another. -/
theorem rackHardware_eq_flatten (inputs : Inputs) (nids : Nids) (rows : List Row) :
    (rackHardware inputs nids rows).1 = (rackPieces inputs nids rows).map List.flatten := by
  unfold rackHardware rackPieces
  cases enclosures rows with
  | error fault => rfl
  | ok known => exact rowsRecords_eq_flatten _ _ _

/-- Each row has records that are made of the row. -/
theorem forall₂_makesPiece {ctx : RackContext} {nids : NidSequence} {rows : List Row}
    {pieces : List (List Record)} (hok : rowPieces ctx nids rows = .ok pieces) :
    List.Forall₂ (fun row piece => ∃ nid, MakesPiece ctx nid row piece) rows pieces := by
  induction rows generalizing nids pieces with
  | nil =>
    cases hok
    exact .nil
  | cons row rest ih =>
    unfold rowPieces at hok
    split at hok
    · cases hok
    · next piece later hrow =>
      obtain ⟨others, hothers, rfl⟩ := map_eq_ok.mp hok
      exact .cons ⟨_, makesPiece_rowRecords hrow⟩ (ih hothers)

/-- Each row has records that are made of the row where the switches of the site and the enclosures
of all rows are known. -/
theorem rackPieces_spec {inputs : Inputs} {nids : Nids} {rows : List Row}
    {pieces : List (List Record)} (hok : rackPieces inputs nids rows = .ok pieces) :
    ∃ ctx : RackContext, ctx.applicationNodes = inputs.applicationNodes ∧
      ctx.switches = switchesByLocation inputs.switches ∧
      enclosures rows = .ok ctx.enclosures ∧
      List.Forall₂ (fun row piece => ∃ nid, MakesPiece ctx nid row piece) rows pieces := by
  unfold rackPieces at hok
  split at hok
  · cases hok
  · next known hknown => exact ⟨_, rfl, rfl, hknown, forall₂_makesPiece hok⟩

/-! ### No row is lost -/

/-- The kinds that devices in racks are recorded as. -/
def deviceKinds : List Kind := [.routerBmc, .cabinetPduController, .chassisBmc, .node]

/-- The record is that of a device in a rack. -/
structure IsDeviceIn (rack : UInt32) (r : Record) : Prop where
  /-- It is of a kind that devices are recorded as. -/
  kind : ∃ kind ∈ deviceKinds, r.kind = some kind
  /-- Its location begins with the rack. -/
  rack : ∃ inner, Xname.ordinals r.xname = .ok (rack :: inner)

/-- A record of a component is that of a device in the rack of the component. -/
theorem isDeviceIn_record {rack : UInt32} {component : Component} {hardwareClass : Hardware.Class}
    {properties : Option Properties} {r : Record} (hkind : component.kind ∈ deviceKinds)
    (hrack : component.ordinals.head? = some rack)
    (hok : record component hardwareClass properties = .ok r) : IsDeviceIn rack r where
  kind := ⟨_, hkind, kind_record hok⟩
  rack := by
    obtain ⟨inner, hinner⟩ := List.head?_eq_some_iff.mp hrack
    exact ⟨inner, by rw [(record_spec hok).1, Component.ordinals_toXname, hinner]⟩

/-- The record that is made for a row's device lies in the row's rack. -/
theorem MakesDevice.isDeviceIn {ctx : RackContext} {row : Row} {rack : UInt32} {nid : UInt64}
    {device : Device} {r : Record} (hmade : MakesDevice ctx row rack nid device r) :
    IsDeviceIn rack r := by
  cases hmade with
  | router stands made =>
    subst stands
    exact isDeviceIn_record (by simp [deviceKinds, Component.kind]) rfl made
  | pdu made => exact isDeviceIn_record (by simp [deviceKinds, Component.kind]) rfl made
  | @enclosure _ position _ _ _ made =>
    have hkind : r.kind = some .chassisBmc := (createAs_origin made).2
    have hordinals := Component.ordinals_toXname
      (.nodeBmc rack 0 position.height enclosureController)
    rw [← (createAs_spec made).1] at hordinals
    exact ⟨⟨_, by decide, hkind⟩, _, hordinals⟩
  | node _ _ _ stands made =>
    subst stands
    exact isDeviceIn_record (by simp [deviceKinds, Component.kind]) rfl made

/-- The row is that of a door, of a management switch, or of an unknown device that no row names
as its enclosure. -/
def IsSkipped (config : ApplicationNode.Config) (rows : List Row) (row : Row) : Prop :=
  row.device config = .ok .door ∨ row.device config = .ok .mgmtSwitch ∨
    row.device config = .ok (.node .unknown) ∧ isNamedEnclosure rows row = false

/-- The records account for a row. -/
structure AccountsFor (config : ApplicationNode.Config) (rows : List Row) (row : Row)
    (piece : List Record) : Prop where
  /-- There are none exactly if the row is skipped. -/
  eq_nil_iff : piece = [] ↔ IsSkipped config rows row
  /-- Else there is one of a device in the row's rack, and behind it one of a connector exactly
  if the row is cabled. -/
  recorded : piece ≠ [] → ∃ rack device connectors,
    row.rack "rack" row.sourceRack = .ok rack ∧ piece = device :: connectors ∧
      IsDeviceIn rack device ∧
      if row.isCabled = true then
        ∃ c, connectors = [c] ∧ c.kind = some .mgmtSwitchConnector
      else connectors = []

section

variable {ctx : RackContext} {rows : List Row} {row : Row}

/-- The device of a row has no record exactly if the row is skipped. -/
theorem isSkipped_iff (hknown : enclosures rows = .ok ctx.enclosures) {device : Device}
    (hreads : row.device ctx.applicationNodes = .ok device) :
    IsSkipped ctx.applicationNodes rows row ↔ ctx.skips row device = true := by
  have hnamed : ctx.isEnclosure row = isNamedEnclosure rows row :=
    contains_enclosures hknown row
  simp only [IsSkipped, hreads, Except.ok.injEq, ← hnamed]
  cases device with
  | node kind => cases kind <;> simp [RackContext.skips]
  | _ => simp [RackContext.skips]

/-- Records that are made of a row account for it. -/
theorem MakesPiece.accountsFor (hknown : enclosures rows = .ok ctx.enclosures) {nid : UInt64}
    {piece : List Record} (hpiece : MakesPiece ctx nid row piece) :
    AccountsFor ctx.applicationNodes rows row piece := by
  cases hpiece with
  | skipped reads skips =>
    have hskipped := (isSkipped_iff hknown reads).mpr skips
    exact ⟨by simp [hskipped], fun hsome => absurd rfl hsome⟩
  | @recorded device rack r connector reads kept inRack made cabled connected =>
    have hkept : ¬ IsSkipped ctx.applicationNodes rows row := by
      rw [isSkipped_iff hknown reads, kept]
      simp
    refine ⟨by simp [hkept], fun _ => ⟨rack, r, connector.toList, inRack, rfl,
      made.isDeviceIn, ?_⟩⟩
    cases connector with
    | none =>
      have hfree : row.isCabled = false := cabled.symm
      simp [hfree]
    | some c =>
      have hcabled : row.isCabled = true := cabled.symm
      rw [if_pos hcabled]
      exact ⟨c, rfl, kind_connectorRecord (connected c rfl)⟩

end

/-- No row is lost silently. The records in racks are those of each row, one row after another.
A row has none exactly if it is that of a door, of a management switch, or of an unknown device
that no row names as its enclosure; any other row has that of its device in the row's rack, and
behind it that of a connector exactly if the row is cabled. -/
theorem rackPieces_accountFor {inputs : Inputs} {nids : Nids} {rows : List Row}
    {records : List Record} (hok : (rackHardware inputs nids rows).1 = .ok records) :
    ∃ pieces, rackPieces inputs nids rows = .ok pieces ∧ records = pieces.flatten ∧
      List.Forall₂ (AccountsFor inputs.applicationNodes rows) rows pieces := by
  rw [rackHardware_eq_flatten] at hok
  obtain ⟨pieces, hpieces, rfl⟩ := map_eq_ok.mp hok
  obtain ⟨ctx, hconfig, _, hknown, hmade⟩ := rackPieces_spec hpieces
  refine ⟨pieces, hpieces, rfl, ?_⟩
  rw [← hconfig]
  exact hmade.imp fun row piece hpiece => by
    obtain ⟨nid, hpiece⟩ := hpiece
    exact hpiece.accountsFor hknown

/-- A rack with a switch. -/
def switchedSite : Inputs where
  cabinets := [{ kind := "river", details := [.ofId 3000] }]
  switches := [⟨"x3000c0w14", "sw-leaf-bmc-001", .leafBmc, .aruba, "", none⟩]

/-- A door, an unknown device, a cabled node and the unknown device that this names as its
enclosure. -/
def crowdedSheet : List Row := [
  { source := "x3000door-Motiv", sourceRack := "front" },
  { source := "mystery-box", sourceRack := "x3000" },
  { source := "nid000001", sourceRack := "x3000", sourceParent := "Shelf",
    destinationRack := "x3000", destinationLocation := "u14", destinationConnector := "j37" },
  { source := "shelf", sourceRack := "x3000", sourceLocation := "u30" }]

/-- Two rows of the crowded sheet have no records, one has two and one has one. -/
theorem rackPieces_accountFor_crowdedSheet :
    ∃ pieces, rackPieces switchedSite {} crowdedSheet = .ok pieces ∧
      pieces.map List.length = [0, 0, 2, 1] ∧
      List.Forall₂ (AccountsFor switchedSite.applicationNodes crowdedSheet) crowdedSheet
        pieces := by
  obtain ⟨pieces, hpieces, hlengths⟩ : ∃ pieces,
      rackPieces switchedSite {} crowdedSheet = .ok pieces ∧
        decide (pieces.map List.length = [0, 0, 2, 1]) = true :=
    exists_of_toOption_any (by decide +kernel)
  have hok : (rackHardware switchedSite {} crowdedSheet).1 = .ok pieces.flatten := by
    rw [rackHardware_eq_flatten, hpieces]
    rfl
  obtain ⟨others, hothers, _, haccount⟩ := rackPieces_accountFor hok
  obtain rfl := Except.ok.inj (hpieces.symm.trans hothers)
  exact ⟨pieces, hpieces, of_decide_eq_true hlengths, haccount⟩

end SitePlan.Synthesis
