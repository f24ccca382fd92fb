import SitePlan.Text.Quoted
import SitePlan.Xname.Error

/-!
# Faults of the cabling sheet
-/

namespace SitePlan.Cabling

/-- Why a column of a row could not be understood. -/
inductive Error
  /-- There is no number where one is needed, or it is too large. -/
  | malformed (field value row : String)
  /-- The rack is not the location name of a cabinet. -/
  | rack (fault : Xname.Error)
  deriving DecidableEq

/-- The fault in words. -/
def Error.message : Error → String
  | .malformed field value row =>
    s!"Malformed {field} " ++ Text.quoted value ++ s!" in HMN row {row}"
  | .rack fault => "Xname error: " ++ fault.message

/-- The fault in words, and what is behind it, from the outside in. -/
def Error.causes : Error → List String
  | .rack fault => ["Xname error: " ++ fault.message, fault.message]
  | fault => [fault.message]

end SitePlan.Cabling
