/-!
# JSON values

The values that a JSON text can hold. Every number the planner reads or writes is a
natural number, so numbers are kept by value only where they are one; any other number
is kept as it was written. Fields of an object stay in the order of the text, and a
field may occur more than once.
-/

namespace SitePlan

/-- A JSON value. -/
inductive Json
  | null
  | bool (value : Bool)
  /-- A number written as digits only. -/
  | natural (value : Nat)
  /-- Any other number, as written. -/
  | otherNumber (written : String)
  | string (value : String)
  | array (items : List Json)
  | object (fields : List (String × Json))
  /-- A value with text that is not made of characters, such as half a surrogate pair. -/
  | unreadable
  deriving Inhabited

namespace Json

/-- A field that is written only when there is a value. -/
def optional (name : String) (value : Option α) (write : α → Json) : List (String × Json) :=
  match value with
  | none => []
  | some v => [(name, write v)]

/-- A text field that is written only when the text is not empty. -/
def nonempty (name value : String) : List (String × Json) :=
  if value = "" then [] else [(name, string value)]

/-- A list field that is written only when the list is not empty. -/
def nonemptyList (name : String) (values : List α) (write : α → Json) :
    List (String × Json) :=
  match values with
  | [] => []
  | vs => [(name, array (vs.map write))]

end Json

end SitePlan
