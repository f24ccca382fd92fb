import SitePlan.Json
import SitePlan.Text.Digit

/-!
# Writing JSON

The layout of JSON files: every item and field on its own line, two spaces further in
than the bracket around it, and empty arrays and objects closed at once.
-/

namespace SitePlan.Json

/-- A character between the quotes of a text. -/
def escapedChar (c : Char) : List Char :=
  if c = '"' then ['\\', '"']
  else if c = '\\' then ['\\', '\\']
  else if c = '\x08' then ['\\', 'b']
  else if c = '\x0c' then ['\\', 'f']
  else if c = '\n' then ['\\', 'n']
  else if c = '\r' then ['\\', 'r']
  else if c = '\t' then ['\\', 't']
  else if c.toNat < 0x20 then
    ['\\', 'u', '0', '0', Nat.digitChar (c.toNat / 16), Nat.digitChar (c.toNat % 16)]
  else [c]

/-- A text between quotes. -/
def quoteText (s : String) : String :=
  String.ofList ('"' :: s.toList.flatMap escapedChar ++ ['"'])

/-- The start of a line at the given depth. -/
def newLine (depth : Nat) : String :=
  String.ofList ('\n' :: List.replicate (2 * depth) ' ')

mutual

/-- A value whose first line starts at the given depth. -/
def renderAt (depth : Nat) : Json → String
  | .null => "null"
  | .bool b => if b then "true" else "false"
  | .natural n => Nat.repr n
  | .otherNumber s => s
  | .string s => quoteText s
  | .array [] => "[]"
  | .array (v :: vs) =>
    "[" ++ newLine (depth + 1) ++ renderAt (depth + 1) v ++ renderItems (depth + 1) vs ++
      newLine depth ++ "]"
  | .object [] => "\x7b\x7d"
  | .object ((name, v) :: fields) =>
    "\x7b" ++ newLine (depth + 1) ++ quoteText name ++ ": " ++ renderAt (depth + 1) v ++
      renderFields (depth + 1) fields ++ newLine depth ++ "\x7d"
  | .unreadable => "null"

/-- Further items of an array. -/
def renderItems (depth : Nat) : List Json → String
  | [] => ""
  | v :: vs => "," ++ newLine depth ++ renderAt depth v ++ renderItems depth vs

/-- Further fields of an object. -/
def renderFields (depth : Nat) : List (String × Json) → String
  | [] => ""
  | (name, v) :: fields =>
    "," ++ newLine depth ++ quoteText name ++ ": " ++ renderAt depth v ++
      renderFields depth fields

end

/-- A value as it is written to a file. -/
def render (value : Json) : String := renderAt 0 value

end SitePlan.Json
