import SitePlan.Json
import SitePlan.Json.Token

/-!
# Reading JSON

The tokens are read one after another. What has been read so far is a stack of arrays
and objects that are not closed yet, together with what may come next. A text is read
when its last token completes the outermost value.
-/

namespace SitePlan.Json

/-- An array or object that is not closed yet, newest parts first. -/
inductive Frame
  | inArray (items : List Json)
  /-- The object waits for the value of this field. -/
  | inObject (fields : List (Option String × Json)) (name : Option String)

/-- What may come next. -/
inductive Reading
  /-- A value. -/
  | value (stack : List Frame)
  /-- The first item of an array, or its end. -/
  | firstItem (stack : List Frame)
  /-- The name of a field, and for a new object also its end. -/
  | fieldName (fields : List (Option String × Json)) (stack : List Frame) (canClose : Bool)
  /-- The colon after a field's name. -/
  | fieldColon (fields : List (Option String × Json)) (name : Option String)
      (stack : List Frame)
  /-- What may follow a complete value. -/
  | complete (value : Json) (stack : List Frame)

/-- An object, from its fields newest first; all names must be made of characters. -/
def closeObject (fields : List (Option String × Json)) : Json :=
  match fields.reverse.mapM fun (name, value) => name.map (·, value) with
  | some fields => .object fields
  | none => .unreadable

/-- The start of a value. -/
def Reading.start (stack : List Frame) : Token → Option Reading
  | .null => some (.complete .null stack)
  | .bool b => some (.complete (.bool b) stack)
  | .natural n => some (.complete (.natural n) stack)
  | .otherNumber s => some (.complete (.otherNumber s) stack)
  | .text (some s) => some (.complete (.string s) stack)
  | .text none => some (.complete .unreadable stack)
  | .openArray => some (.firstItem stack)
  | .openObject => some (.fieldName [] stack true)
  | _ => none

/-- The next token is read. -/
def Reading.step (reading : Reading) (token : Token) : Option Reading :=
  match reading, token with
  | .value stack, token => start stack token
  | .firstItem stack, .closeArray => some (.complete (.array []) stack)
  | .firstItem stack, token => start (.inArray [] :: stack) token
  | .fieldName fields stack _, .text name => some (.fieldColon fields name stack)
  | .fieldName _ stack true, .closeObject => some (.complete (.object []) stack)
  | .fieldColon fields name stack, .colon => some (.value (.inObject fields name :: stack))
  | .complete v (.inArray items :: stack), .comma => some (.value (.inArray (v :: items) :: stack))
  | .complete v (.inArray items :: stack), .closeArray =>
    some (.complete (.array (v :: items).reverse) stack)
  | .complete v (.inObject fields name :: stack), .comma =>
    some (.fieldName ((name, v) :: fields) stack false)
  | .complete v (.inObject fields name :: stack), .closeObject =>
    some (.complete (closeObject ((name, v) :: fields)) stack)
  | _, _ => none

/-- The value of a JSON text. -/
def parse? (text : String) : Option Json := do
  let tokens ← tokens? text.toList
  match ← tokens.foldlM Reading.step (.value []) with
  | .complete value [] => some value
  | _ => none

end SitePlan.Json
