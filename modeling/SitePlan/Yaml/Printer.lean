import SitePlan.Json
import SitePlan.Yaml.Document
import SitePlan.Yaml.Token

/-!
# Writing YAML

The layout of YAML files: every field and item has its own line. The fields of a mapping
stand two columns further in than the mapping around it, the items of a sequence stand
below the field that holds them, and empty collections are written with brackets. Texts
have quotes only where they would be read as something else without them, and double quotes
only where a character has to be named.
-/

namespace SitePlan.Yaml

/-- Words that stand for something else than themselves, in lower case. -/
def reservedWords : List String :=
  ["", "~", "null", "true", "false", "yes", "no", "on", "off", "y", "n"]

/-- A character that is written as itself. -/
def isWritten (c : Char) : Bool :=
  isAllowed c && !(c = '\t' || c = '\r' || c = '\u0085' || c = byteOrderMark)

/-- The characters of a text that can go on without quotes, after the character before
them. -/
def staysPlain (before : Char) : List Char → Bool
  | [] => !isGap before && before ≠ ':'
  | c :: rest =>
    !isBreak c && !(c = '#' && isGap before) && !(before = ':' && isGap c) && staysPlain c rest

/-- Three dashes or three points come first, as in the mark of a document's end. -/
def beginsMark : List Char → Bool
  | '-' :: '-' :: '-' :: _ | '.' :: '.' :: '.' :: _ => true
  | _ => false

/-- A text that reads back as itself without quotes. A dash by itself is the mark of an
entry. -/
def isPlainText (s : String) : Bool :=
  s.toList.all isWritten &&
  match s.toList with
  | [] => false
  | c :: rest =>
    beginsPlain false c rest && !(c = '-' && rest.isEmpty) && staysPlain c rest &&
      (number? s).isNone && !beginsMark (c :: rest) && !reservedWords.contains s.toLower

/-- The letters that name a character after a backslash. -/
def nameLetters : List Char :=
  ['0', 'a', 'b', 't', 'n', 'v', 'f', 'r', 'e', '"', '\\', 'N', '_', 'L', 'P']

/-- A character's code in capital hexadecimal digits. -/
def codeDigits (width code : Nat) : List Char :=
  let digits := (Nat.toDigits 16 code).map Char.toUpper
  List.replicate (width - digits.length) '0' ++ digits

/-- A character between double quotes. -/
def namedChar (c : Char) : List Char :=
  if isWritten c && !isBreak c && c ≠ '"' && c ≠ '\\' then [c]
  else
    match nameLetters.find? fun letter => escape? letter = some c with
    | some letter => ['\\', letter]
    | none =>
      if c.toNat ≤ 0xFF then '\\' :: 'x' :: codeDigits 2 c.toNat
      else if c.toNat ≤ 0xFFFF then '\\' :: 'u' :: codeDigits 4 c.toNat
      else '\\' :: 'U' :: codeDigits 8 c.toNat

/-- A character between single quotes. -/
def doubledQuote (c : Char) : List Char := if c = '\x27' then [c, c] else [c]

/-- A text between single quotes. -/
def singleQuoted (s : String) : String :=
  String.ofList ('\x27' :: s.toList.flatMap doubledQuote ++ ['\x27'])

/-- A text between double quotes. -/
def doubleQuoted (s : String) : String :=
  String.ofList ('"' :: s.toList.flatMap namedChar ++ ['"'])

/-- A text as it is written. -/
def scalarText (s : String) : String :=
  if isPlainText s then s
  else if s.toList.all isWritten then singleQuoted s
  else doubleQuoted s

/-- The lines of an item, with its mark before the first one. -/
def markItem : List String → List String
  | [] => []
  | first :: more => ("- " ++ first) :: more.map ("  " ++ ·)

/-- The text of a value that has no items or fields. -/
def leafText : Json → String
  | .null | .unreadable => "null"
  | .bool b => if b then "true" else "false"
  | .natural n => Nat.repr n
  | .otherNumber s => s
  | .string s => scalarText s
  | .array _ => "[]"
  | .object _ => "\x7b\x7d"

mutual

/-- The lines of a value. -/
def lines : Json → List String
  | .array (v :: vs) => markItem (lines v) ++ itemLines vs
  | .object ((name, v) :: fields) => fieldLines name v ++ moreFieldLines fields
  | leaf => [leafText leaf]

/-- The lines of items. -/
def itemLines : List Json → List String
  | [] => []
  | v :: vs => markItem (lines v) ++ itemLines vs

/-- The lines of a field. -/
def fieldLines (name : String) : Json → List String
  | .array (v :: vs) => (scalarText name ++ ":") :: (markItem (lines v) ++ itemLines vs)
  | .object ((inner, v) :: fields) =>
    (scalarText name ++ ":") ::
      (fieldLines inner v ++ moreFieldLines fields).map ("  " ++ ·)
  | leaf => [scalarText name ++ ": " ++ leafText leaf]

/-- The lines of fields. -/
def moreFieldLines : List (String × Json) → List String
  | [] => []
  | (name, v) :: fields => fieldLines name v ++ moreFieldLines fields

end

/-- A value as it is written to a file. -/
def render (value : Json) : String :=
  String.join ((lines value).map (· ++ "\n"))

end SitePlan.Yaml
