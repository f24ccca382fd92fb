import SitePlan.Document
import SitePlan.Text.Digit
import SitePlan.Yaml

/-!
# Records in YAML

Any scalar is a text, as it is written or as its quotes say. Only a plain scalar is a
number: decimal without zeros in front, or hexadecimal, octal or binary with the mark of
its base. Where nothing is written, there is an empty list or a record without fields.
-/

namespace SitePlan.Yaml

/-- Digits of a base with its mark in front. -/
def basedNumber? (cs : List Char) : Option Nat :=
  match cs with
  | '0' :: 'x' :: digits => Text.readBase? 16 digits
  | '0' :: 'o' :: digits => Text.readBase? 8 digits
  | '0' :: 'b' :: digits => Text.readBase? 2 digits
  | _ => if cs.head? = some '0' && cs.length ≠ 1 then none else Text.readNat? cs

/-- The natural number that a plain scalar is, perhaps after a plus sign. -/
def number? (written : String) : Option Nat :=
  match written.toList with
  | '+' :: cs => basedNumber? cs
  | cs => basedNumber? cs

/-- The text of a scalar. -/
def text? : Yaml → Option String
  | plain written => some written
  | quoted text => some text
  | _ => none

/-- Words for the absence of a value. -/
def absenceWords : List String := ["", "~", "null", "Null", "NULL"]

instance : Document Yaml where
  text? := text?
  word? := text?
  natural?
    | plain written => number? written
    | _ => none
  items?
    | sequence items => some items
    | plain "" => some []
    | _ => none
  fields?
    | mapping fields => fields.mapM fun (key, value) => (text? key).map (·, value)
    | plain "" => some []
    | _ => none
  positions? _ := none
  isAbsent
    | plain written => absenceWords.contains written
    | _ => false

end SitePlan.Yaml
