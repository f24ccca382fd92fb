import SitePlan.Cabling.Error
import SitePlan.Cabling.Row
import SitePlan.Text.Digit
import SitePlan.Xname.Canonical
import SitePlan.Xname.Grammar

/-!
# Where a device stands

Racks are location names of cabinets. Inside a rack a device stands at a height, and it may
share that height with another one, on its left or right half. Heights and connectors are
written with letters around the number, such as `u17L` or `j37`: the first digits count.
-/

namespace SitePlan.Cabling

/-- Half of an enclosure. -/
inductive Side
  | left
  | right
  deriving DecidableEq

/-- The half that a word names, in any mixture of ASCII capitals and small letters. -/
def Side.ofWord? (word : String) : Option Side :=
  match (Text.trimText word).toLower with
  | "l" | "left" => some .left
  | "r" | "right" => some .right
  | _ => none

/-- The number of the controller of a half; an undivided enclosure has the number zero. -/
def bmcOrdinal : Option Side → UInt32
  | some .left => 1
  | some .right => 2
  | none => 0

/-- A place in a rack. -/
structure Position where
  /-- The height. -/
  height : UInt32
  /-- The half, where only one is meant. -/
  side : Option Side
  deriving DecidableEq

/-- The first run of decimal digits of a text, and what follows it. -/
def firstDigits (cs : List Char) : List Char × List Char :=
  let fromDigit := cs.dropWhile fun c => !Text.isDecimalDigit c
  (fromDigit.takeWhile Text.isDecimalDigit, fromDigit.dropWhile Text.isDecimalDigit)

/-- A number of 32 bits in ASCII digits. -/
def uint32? (digits : List Char) : Option UInt32 := do
  let n ← Text.readNat? digits
  if n < UInt32.size then some n.toUInt32 else none

/-- The ASCII letters at the start of a text. -/
def leadingLetters (cs : List Char) : List Char := cs.takeWhile Char.isAlpha

/-- The half of an enclosure that the row's own column names. -/
def Row.side? (row : Row) : Option Side := Side.ofWord? row.sourceSubLocation

/-- Where the device of a row stands. The letters after the number name a half if the
column for it does not. -/
def Row.position (row : Row) : Except Error Position :=
  let location := Text.trim row.sourceLocation.toList
  let (digits, rest) := firstDigits location
  match uint32? digits with
  | none => .error (.malformed "location" (String.ofList location) row.source)
  | some height =>
    .ok ⟨height, row.side?.or (Side.ofWord? (String.ofList (leadingLetters rest)))⟩

/-- The number in a column of a row. -/
def Row.number (row : Row) (field value : String) : Except Error UInt32 :=
  let written := Text.trim value.toList
  match uint32? (firstDigits written).1 with
  | none => .error (.malformed field (String.ofList written) row.source)
  | some n => .ok n

/-- The ordinal of the cabinet that a column of a row names. -/
def Row.rack (row : Row) (field value : String) : Except Error UInt32 :=
  match Xname.ordinalsOfKind .cabinet (Xname.normalize (nameKey value)) with
  | .error fault => .error (.rack fault)
  | .ok [cabinet] => .ok cabinet
  | .ok _ => .error (.malformed field value row.source)

/-- The first digits and what follows them end the text. -/
theorem firstDigits_suffix (cs : List Char) :
    (firstDigits cs).1 ++ (firstDigits cs).2 <:+ cs := by
  simp only [firstDigits, List.takeWhile_append_dropWhile]
  exact List.dropWhile_suffix _

end SitePlan.Cabling
