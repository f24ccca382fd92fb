import SitePlan.Text.LowerCase.Table
import SitePlan.Text.LowerCase.WordEnd

/-!
# Lower case

Text in lower case, for every script. Two letters need more than the table of capital
runs: the dotted capital I becomes two characters, and the capital sigma has a second
small form at the end of a word.
-/

namespace SitePlan.Text

/-- The small form of a letter that has one, and any other character itself. -/
def lowerLetter (c : Char) : Char :=
  let n := c.toNat
  match capitalRuns.find? fun run =>
      run.first ≤ n && n ≤ run.last && (n - run.first) % run.step == 0 with
  | some run => Char.ofNat (run.small + (n - run.first))
  | none => c

/-- A word ends here: a cased letter stands before this place, read backwards, and none
after it. -/
def atWordEnd (before after : List Char) : Bool :=
  continuesWord before && !continuesWord after

/-- The lower-case form of one character between the text before it, read backwards, and
the text after it. -/
def lowerBetween (before : List Char) (c : Char) (after : List Char) : List Char :=
  if c.toNat < 0x80 then [c.toLower]
  else if c = 'İ' then ['i', '\u0307']
  else if c = 'Σ' then [if atWordEnd before after then 'ς' else 'σ']
  else [lowerLetter c]

/-- Lower case of the text that follows the characters already read, newest first. -/
def lowerFrom (before : List Char) : List Char → List Char
  | [] => []
  | c :: after => lowerBetween before c after ++ lowerFrom (c :: before) after

/-- The text in lower case. -/
def lower (cs : List Char) : List Char := lowerFrom [] cs

/-- A text in lower case. -/
def lowerText (s : String) : String := String.ofList (lower s.toList)

end SitePlan.Text
