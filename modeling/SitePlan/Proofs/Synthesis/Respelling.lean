import SitePlan.Proofs.Cabling.Respelling
import SitePlan.Proofs.SortedMap
import SitePlan.Proofs.Synthesis.RecordRuns
import SitePlan.Synthesis.Rack

/-!
# Sheets that are typed differently

Records in racks are made from what rows say, not from how they are typed. Rows that read alike
give the same records one by one, and so do sheets of such rows, because the heights of
enclosures, which rows are looked up for, are the same in both.
-/

namespace SitePlan.Synthesis

open Cabling Hardware Outcome

variable {ctx : RackContext} {row row' : Row}

/-! ### Records of a row -/

/-- Rows that read alike are enclosures in the same contexts. -/
theorem isEnclosure_of_readsAlike (h : row.ReadsAlike row') :
    ctx.isEnclosure row = ctx.isEnclosure row' := by
  rw [RackContext.isEnclosure, h.key, RackContext.isEnclosure]

/-- Rows that read alike name the same enclosure. -/
theorem enclosure?_of_readsAlike (h : row.ReadsAlike row') :
    ctx.enclosure? row = ctx.enclosure? row' := by
  rw [RackContext.enclosure?, h.hasParent, h.parentKey, RackContext.enclosure?]

/-- Rows that read alike give a node the same place. -/
theorem toOption_nodePlace (h : row.ReadsAlike row') (nid : Option UInt64) :
    (nodePlace ctx row nid).toOption = (nodePlace ctx row' nid).toOption := by
  rw [nodePlace, nodePlace, enclosure?_of_readsAlike h]
  cases ctx.enclosure? row' with
  | some height =>
    have hbmc : (enclosureBmc row nid).toOption = (enclosureBmc row' nid).toOption := by
      cases nid with
      | none => rw [enclosureBmc, h.side, enclosureBmc]
      | some nid =>
        simp only [enclosureBmc]
        split_ifs <;> rfl
    simp [hbmc]
  | none => simp [h.position]

/-- Rows that read alike give a node the same record. -/
theorem toOption_nodeRecord (h : row.ReadsAlike row') (rack : UInt32)
    (properties : NodeProperties) :
    (nodeRecord ctx row rack properties).toOption =
      (nodeRecord ctx row' rack properties).toOption := by
  simp [nodeRecord, toOption_nodePlace h]

/-- Rows that read alike give an enclosure the same record. -/
theorem toOption_enclosureRecord (h : row.ReadsAlike row') (rack : UInt32) :
    (enclosureRecord row rack).toOption = (enclosureRecord row' rack).toOption := by
  simp [enclosureRecord, h.position]

/-- Rows that read alike give a device the same record or none. -/
theorem toOption_deviceRecord? (h : row.ReadsAlike row') (rack : UInt32) (nid : UInt64)
    (device : Device) :
    (deviceRecord? ctx row rack nid device).toOption =
      (deviceRecord? ctx row' rack nid device).toOption := by
  cases device with
  | door => rfl
  | mgmtSwitch => rfl
  | routerBmc position => rfl
  | pdu controller => rfl
  | node kind =>
    have hnode : ∀ properties, (nodeRecord ctx row rack properties).toOption =
        (nodeRecord ctx row' rack properties).toOption := toOption_nodeRecord h rack
    have henclosure := toOption_enclosureRecord h rack
    cases kind with
    | system => simp [deviceRecord?, henclosure]
    | _ =>
      simp only [deviceRecord?, isEnclosure_of_readsAlike h, nodeProperties?]
      split_ifs <;> simp [hnode, henclosure]

/-- Rows that read alike give the connector that they are wired to the same record. -/
theorem toOption_connectorRecord (h : row.ReadsAlike row') (nic : String) :
    (connectorRecord ctx row nic).toOption = (connectorRecord ctx row' nic).toOption := by
  refine toOption_bind_congr (by simp [h.destinationRack]) fun rack => ?_
  refine toOption_bind_congr (by simp [h.destinationLocation]) fun slot => ?_
  refine toOption_bind_congr (by simp [h.destinationConnector]) fun number => ?_
  dsimp only
  cases ctx.switches.get? (Xname.Component.mgmtSwitch rack 0 slot).toXname with
  | none => rfl
  | some switch =>
    dsimp only
    cases connectorName? switch.brand number <;> rfl

/-- Rows that read alike give the same records in a rack. -/
theorem toOption_recordsInRack (ctx : RackContext) (h : row.ReadsAlike row') (rack : UInt32)
    (nid : UInt64) (device : Device) :
    (recordsInRack ctx row rack nid device).toOption =
      (recordsInRack ctx row' rack nid device).toOption := by
  refine toOption_bind_congr (toOption_deviceRecord? h rack nid device) fun made => ?_
  cases made with
  | none => rfl
  | some record =>
    dsimp only
    rw [h.isCabled]
    split_ifs
    · simp [toOption_connectorRecord h]
    · rfl

/-- Rows that read alike use up a number for the same devices. -/
theorem takesNid_of_readsAlike (h : row.ReadsAlike row') (device : Device) :
    takesNid ctx row device = takesNid ctx row' device := by
  cases device with
  | node kind => cases kind <;> simp [takesNid, isEnclosure_of_readsAlike h]
  | _ => rfl

/-- Rows that read alike give the same records and use up the same numbers. -/
theorem rowRecords_of_readsAlike (ctx : RackContext) (h : row.ReadsAlike row')
    (nids : NidSequence) :
    (rowRecords ctx nids row).1.toOption = (rowRecords ctx nids row').1.toOption ∧
      (rowRecords ctx nids row).2 = (rowRecords ctx nids row').2 := by
  unfold rowRecords
  rcases cases_of_toOption_eq (h.device ctx.applicationNodes) with
    ⟨_, _, hdevice, hdevice'⟩ | ⟨device, hdevice, hdevice'⟩
  · rw [hdevice, hdevice']
    exact ⟨rfl, rfl⟩
  rw [hdevice, hdevice']
  rcases cases_of_toOption_eq (h.rack "rack") with ⟨_, _, hrack, hrack'⟩ | ⟨rack, hrack, hrack'⟩
  · rw [hrack, hrack']
    cases device <;> exact ⟨rfl, rfl⟩
  rw [hrack, hrack']
  have hrecords := toOption_recordsInRack ctx h rack nids.next device
  cases device <;> simp [NidSequence.take, hrecords, takesNid_of_readsAlike h]

/-! ### Records of a sheet -/

/-- Sheets whose rows read alike give the same records and use up the same numbers. -/
theorem rowsRecords_of_readsAlike {rows rows' : List Row}
    (hall : List.Forall₂ Row.ReadsAlike rows rows') (nids : NidSequence) :
    (rowsRecords ctx nids rows).1.toOption = (rowsRecords ctx nids rows').1.toOption ∧
      (rowsRecords ctx nids rows).2 = (rowsRecords ctx nids rows').2 := by
  have hstep := fun nids row row' (h : Row.ReadsAlike row row') =>
    rowRecords_of_readsAlike ctx h nids
  rw [rowsRecords, rowsRecords]
  exact recordsOfEach_congr hstep hall nids

/-- Sheets whose rows read alike have enclosures at the same heights, if the rows that are
looked up by name read alike too. -/
theorem toOption_enclosuresInto {byName byName' : SortedMap Row}
    (hnamed : ∀ key, Option.Rel Row.ReadsAlike (byName.get? key) (byName'.get? key))
    {rows rows' : List Row} (hall : List.Forall₂ Row.ReadsAlike rows rows')
    (known : SortedMap UInt32) :
    (enclosuresInto byName known rows).toOption =
      (enclosuresInto byName' known rows').toOption := by
  induction hall generalizing known with
  | nil => rfl
  | @cons row row' rest rest' h _ ih =>
    unfold enclosuresInto
    rw [h.hasParent, h.parentKey]
    split
    · have hparent := hnamed row'.parentKey
      generalize byName.get? row'.parentKey = parent at hparent
      generalize byName'.get? row'.parentKey = parent' at hparent
      cases hparent with
      | none => rfl
      | @some parent parent' hparent =>
        rcases cases_of_toOption_eq hparent.position with
          ⟨_, _, hposition, hposition'⟩ | ⟨position, hposition, hposition'⟩
        · simp only [hposition, hposition']
          rfl
        · simp only [hposition, hposition']
          exact ih _
    · exact ih known

/-- Sheets whose rows read alike have enclosures at the same heights. -/
theorem toOption_enclosures {rows rows' : List Row}
    (hall : List.Forall₂ Row.ReadsAlike rows rows') :
    (enclosures rows).toOption = (enclosures rows').toOption := by
  refine toOption_enclosuresInto (SortedMap.rel_get?_ofList ?_) hall .empty
  rw [List.forall₂_map_left_iff, List.forall₂_map_right_iff]
  exact hall.imp fun _ _ h => ⟨h.key, h⟩

/-- Sheets whose rows read alike give the same records. -/
theorem rackHardware_of_readsAlike {rows rows' : List Row}
    (hall : List.Forall₂ Row.ReadsAlike rows rows') (inputs : Inputs) (nids : Nids) :
    (rackHardware inputs nids rows).1.toOption = (rackHardware inputs nids rows').1.toOption := by
  unfold rackHardware
  rcases cases_of_toOption_eq (toOption_enclosures hall) with
    ⟨_, _, hknown, hknown'⟩ | ⟨known, hknown, hknown'⟩
  · rw [hknown, hknown']
    rfl
  · rw [hknown, hknown']
    exact (rowsRecords_of_readsAlike hall nids.management).1

/-- The spelling of rows does not matter. If each row of a sheet is typed differently, in other
letter case, with more or less space around its columns or with other zeros in front of its
numbers, then records can be made from the one sheet exactly if they can be made from the other,
and they are the same. -/
theorem rackHardware_respelled {rows rows' : List Row}
    (hall : List.Forall₂ Row.Respelled rows rows') (inputs : Inputs) (nids : Nids)
    (records : List Record) :
    (rackHardware inputs nids rows).1 = .ok records ↔
      (rackHardware inputs nids rows').1 = .ok records :=
  toOption_eq_iff.mp
    (rackHardware_of_readsAlike (hall.imp fun _ _ h => h.readsAlike) inputs nids) records

/-- A sheet with a node in an enclosure; the node is cabled to a switch. -/
def typedSheet : List Row := [
  { source := "nid000001", sourceRack := "x3000", sourceLocation := "u17",
    sourceParent := "cmc-1", destinationRack := "x3000", destinationLocation := "u14",
    destinationConnector := "j37" },
  { source := "cmc-1", sourceRack := "x3000", sourceLocation := "u17" }]

/-- The same sheet, typed in a hurry. -/
def retypedSheet : List Row := [
  { source := "NID000001", sourceRack := "X03000", sourceLocation := "u17 ",
    sourceParent := " cmc-1\t", destinationRack := "x003000", destinationLocation := "U14",
    destinationConnector := "j0037" },
  { source := "Cmc-1\t", sourceRack := " x3000", sourceLocation := "u017" }]

/-- A site with the switch that the sheet mentions. -/
def typedSite : Inputs where
  cabinets := [{ kind := "river", details := [.ofId 3000] }]
  switches := [⟨"x3000c0w14", "sw-leaf-bmc-001", .leafBmc, .dell, "", none⟩]

/-- Three records are made from either spelling of the sheet. -/
theorem rackHardware_respelled_retypedSheet :
    ∃ records, records.length = 3 ∧ (rackHardware typedSite {} typedSheet).1 = .ok records ∧
      (rackHardware typedSite {} retypedSheet).1 = .ok records := by
  obtain ⟨records, hok, hthree⟩ : ∃ records,
      (rackHardware typedSite {} typedSheet).1 = .ok records ∧
        decide (records.length = 3) = true :=
    exists_of_toOption_any (by decide +kernel)
  refine ⟨records, of_decide_eq_true hthree, hok, ?_⟩
  refine (rackHardware_respelled (.cons ?_ (.cons ?_ .nil)) typedSite {} records).mp hok
  · exact {
      source := .rel _ _ (.letterCase (by decide))
      sourceRack := .trans _ "X3000" _ (.rel _ _ (.letterCase (by decide)))
        (.rel _ _ (.zeros rfl ['X'] 1 '3' ['0', '0', '0'] (by simp; rfl) rfl rfl rfl))
      sourceLocation := .rel _ _ (.space [] [' '] (by simp) (by simp) rfl)
      sourceSubLocation := .refl _
      sourceParent := .rel _ _ (.space [' '] ['\t'] (by simp) (by simp) rfl)
      destinationRack := .rel _ _
        (.zeros rfl ['x'] 2 '3' ['0', '0', '0'] (by simp; rfl) rfl rfl rfl)
      destinationLocation := .rel _ _ (.letterCase (by decide))
      destinationConnector := .rel _ _ (.zeros rfl ['j'] 2 '3' ['7'] (by simp; rfl) rfl rfl rfl) }
  · exact {
      source := .trans _ "Cmc-1" _ (.rel _ _ (.letterCase (by decide)))
        (.rel _ _ (.space [] ['\t'] (by simp) (by simp) rfl))
      sourceRack := .rel _ _ (.space [' '] [] (by simp) (by simp) rfl)
      sourceLocation := .rel _ _ (.zeros rfl ['u'] 1 '1' ['7'] (by simp; rfl) rfl rfl rfl)
      sourceSubLocation := .refl _
      sourceParent := .refl _
      destinationRack := .refl _
      destinationLocation := .refl _
      destinationConnector := .refl _ }

end SitePlan.Synthesis
