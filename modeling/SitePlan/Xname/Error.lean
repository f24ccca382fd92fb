import SitePlan.Xname.Kind

/-!
# Faults of location names
-/

namespace SitePlan.Xname

/-- Why a location name could not be used. -/
inductive Error
  /-- The text is no location name. -/
  | invalid (xname : String)
  /-- The text is a location name of another kind. -/
  | wrongKind (xname : String) (expected actual : Kind)
  /-- The system root lies in nothing. -/
  | noParent (xname : String)
  /-- An ordinal does not fit in 32 bits, or is not written in ASCII digits. -/
  | ordinalOutOfRange (xname ordinal : String)
  deriving DecidableEq

/-- The fault in words. -/
def Error.message : Error → String
  | .invalid xname => s!"invalid xname: {xname}"
  | .wrongKind xname expected actual =>
    s!"xname {xname} is a {actual.name}, expected a {expected.name}"
  | .noParent xname => s!"xname {xname} has no parent"
  | .ordinalOutOfRange xname ordinal =>
    s!"ordinal {ordinal} in xname {xname} is out of range"

end SitePlan.Xname
