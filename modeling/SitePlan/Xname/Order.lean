import SitePlan.Text.Digit
import SitePlan.Xname.Grammar

/-!
# The order of location names

Location names are listed as people count: `x9` before `x10` before `x3000`. Runs of
ASCII digits compare as numbers, what lies between them compares as text, a number comes
before text, and a name comes before its continuations.
-/

namespace SitePlan.Xname

/-- A maximal stretch of a name that is all digits or free of them. -/
inductive Run
  /-- ASCII digits, as they are written. -/
  | number (digits : List Char)
  /-- Anything else. -/
  | text (chars : List Char)
  deriving DecidableEq

/-- The stretches of a text as characters, told apart by whether they are digits. -/
def stretches : List Char → List (Bool × List Char)
  | [] => []
  | c :: rest =>
    match stretches rest with
    | (digits, cs) :: more =>
      if digits = c.isDigit then (digits, c :: cs) :: more
      else (c.isDigit, [c]) :: (digits, cs) :: more
    | [] => [(c.isDigit, [c])]

/-- The runs of a name. -/
def runs (s : String) : List Run :=
  (stretches s.toList).map fun (digits, cs) =>
    if digits then .number cs else .text cs

/-- The digits without the zeros in front. -/
def significant (digits : List Char) : List Char :=
  digits.dropWhile (· == '0')

/-- Numbers compare by how many digits they have after the zeros in front, and then digit by
digit, so a number of any size can be compared. -/
def compareNumbers (a b : List Char) : Ordering :=
  (Ord.compare (significant a).length (significant b).length).then
    (Ord.compare (significant a) (significant b))

/-- Numbers come before text. -/
def Run.compare : Run → Run → Ordering
  | .number a, .number b => compareNumbers a b
  | .text a, .text b => Ord.compare a b
  | .number _, .text _ => .lt
  | .text _, .number _ => .gt

/-- The first difference decides, and the shorter sequence comes first. -/
def compareRuns : List Run → List Run → Ordering
  | [], [] => .eq
  | [], _ :: _ => .lt
  | _ :: _, [] => .gt
  | a :: as, b :: bs => (a.compare b).then (compareRuns as bs)

/-- The order of two location names. -/
def compare (a b : String) : Ordering :=
  compareRuns (runs a) (runs b)

/-- Location names in order; names that compare equal keep their places. -/
def sort (xnames : List String) : List String :=
  xnames.mergeSort fun a b => (compare a b).isLE

/-- The location names of cabinets among these, in order. A name that follows itself is
listed once. -/
def sortCabinets (xnames : List String) : List String :=
  (sort (xnames.filter fun s => kind? s = some .cabinet)).eraseReps

end SitePlan.Xname
