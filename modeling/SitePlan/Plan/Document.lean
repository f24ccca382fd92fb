import SitePlan.Hardware.Document
import SitePlan.Network.Document
import SitePlan.Plan.Basic

/-!
# Plans in documents
-/

namespace SitePlan.Plan

open Document

/-- A plan in a document. -/
def read? {δ : Type} [Document δ] (d : δ) : Option Plan := do
  let r ← record? ["Hardware", "Networks"] d
  return {
    hardware := ← r.required? "Hardware" (map? Hardware.Record.read?)
    networks := ← r.required? "Networks" (map? Network.read?) }

/-- A plan in JSON. -/
def toJson (plan : Plan) : Json :=
  .object [("Hardware", plan.hardware.toJson),
    ("Networks", Hardware.mapToJson Network.toJson plan.networks)]

end SitePlan.Plan
