import SitePlan.Document
import SitePlan.Json

/-!
# Records in JSON

A text is a JSON text, a number is written in digits, and `null` stands for absence. A
record may also be given as an array of its values, and a word of a fixed choice as the
only field of an object, with nothing in it.
-/

namespace SitePlan.Json

instance : Document Json where
  text?
    | .string s => some s
    | _ => none
  word?
    | .string s => some s
    | .object [(s, .null)] => some s
    | _ => none
  natural?
    | .natural n => some n
    | _ => none
  items?
    | .array items => some items
    | _ => none
  fields?
    | .object fields => some fields
    | _ => none
  positions?
    | .array items => some items
    | _ => none
  isAbsent
    | .null => true
    | _ => false

end SitePlan.Json
