import SitePlan.Plan.Files
import SitePlan.Proofs.Hardware.ReadingBack
import SitePlan.Proofs.Network.ReadingBack

/-!
# Plans read back

Hardware records, networks and whole plans are read back from what they are written to. The text of
a JSON file is read by the planner's own reader. Of other notations only this is used, that the
document they make shows what was written.
-/

namespace SitePlan.Plan

open Document

/-! ### Plans -/

/-- The plan as it is read: its networks may grow again. -/
def unsealed (plan : Plan) : Plan := { plan with networks := plan.networks.map Network.unsealed }

/-- A plan is recovered, but for networks being sealed. -/
theorem recovers {δ : Type} [Document δ] (plan : Plan) :
    Recovers (δ := δ) read? plan.toJson plan.unsealed := by
  intro d hd
  have hrecord : IsRecord plan.toJson :=
    isRecord_object (List.Sublist.refl ["Hardware", "Networks"]) (by decide)
  obtain ⟨r, hr, hfields⟩ := exists_record? hd hrecord ["Hardware", "Networks"]
  have hhardware : r.required? "Hardware" (map? Hardware.Record.read?) = some plan.hardware :=
    hfields.required? (by decide) rfl (recovers_sameMap fun record _ => record.recovers)
  have hnetworks : r.required? "Networks" (map? Network.read?) =
      some (plan.networks.map Network.unsealed) :=
    hfields.required? (by decide) rfl (recovers_map fun network _ => network.recovers)
  simp [read?, hr, hhardware, hnetworks, unsealed]

/-- A plan is made of texts, numbers, lists and objects. -/
theorem plain (plan : Plan) : plan.toJson.Plain := by
  simp [toJson, Hardware.Inventory.toJson, Hardware.Record.plain, Network.plain]

/-! ### Files -/

/-- The value is read from the JSON text of what is written, and from every document in any
notation that shows it. -/
def ReadsBackAs {α : Type} (written : Json)
    (read : {δ : Type} → [Document δ] → δ → Option α) (a : α) : Prop :=
  (Json.parse? (Json.render written)).bind read = some a ∧
    ∀ (δ : Type) [Document δ] (d : δ), Shows d written → read d = some a

/-- What is recovered from every document reads back. -/
theorem readsBackAs {α : Type} {written : Json}
    {read : {δ : Type} → [Document δ] → δ → Option α} {a : α}
    (hread : ∀ (δ : Type) [Document δ], Recovers (δ := δ) read written a)
    (hplain : written.Plain) : ReadsBackAs written read a :=
  ⟨read_parse?_render (hread Json) hplain, fun δ _ => hread δ⟩

/-- Properties of every kind, hardware records, networks and plans read back as they were, the
properties as the kind they are; only that networks are sealed is forgotten. -/
theorem outputs_read_back :
    (∀ p : Hardware.Properties, ReadsBackAs p.toJson Hardware.Properties.read? p) ∧
    (∀ record : Hardware.Record, ReadsBackAs record.toJson Hardware.Record.read? record) ∧
    (∀ network : Network,
      ReadsBackAs network.toJson Network.read? { network with isSealed := false }) ∧
    ∀ plan : Plan, ReadsBackAs plan.toJson read?
      { plan with networks := plan.networks.map fun network =>
          { network with isSealed := false } } := by
  refine ⟨fun p => ?_, fun record => ?_, fun network => ?_, fun plan => ?_⟩
  · exact readsBackAs (fun δ _ => p.recovers) p.plain
  · exact readsBackAs (fun δ _ => record.recovers) record.plain
  · exact readsBackAs (fun δ _ => network.recovers) network.plain
  · exact readsBackAs (fun δ _ => plan.recovers) plan.plain

end SitePlan.Plan
