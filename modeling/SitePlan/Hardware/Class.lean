/-!
# Hardware classes
-/

namespace SitePlan.Hardware

/-- How hardware is packaged and cooled: racks with air cooling, small and large cabinets
with liquid cooling. -/
inductive Class
  | river
  | hill
  | mountain
  deriving DecidableEq

/-- The name of a class in records. -/
def Class.name : Class → String
  | river => "River"
  | hill => "Hill"
  | mountain => "Mountain"

/-- Every class. -/
def Class.all : List Class := [river, hill, mountain]

/-- The class of this name. -/
def Class.ofName? (s : String) : Option Class := all.find? fun c => c.name = s

/-- Names lead back to their class. -/
theorem Class.ofName?_name (c : Class) : ofName? c.name = some c := by
  cases c <;> rfl

end SitePlan.Hardware
