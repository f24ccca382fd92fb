import SitePlan.Text.Blank
import SitePlan.Text.Digit
import SitePlan.Text.LowerCase

/-!
# The canonical spelling of a location name

Location names typed by people come with surrounding white space, capital letters and
zero-padded ordinals. The canonical spelling has none of these. Text that is no
location name gets the same treatment and nothing more.
-/

namespace SitePlan.Xname

/-- An ASCII small letter. -/
def isLetter (c : Char) : Bool := 'a' ≤ c && c ≤ 'z'

/-- The text without the zeros that pad an ordinal: those that directly follow a letter
and stand before another decimal digit. The flag tells that a letter, or a dropped zero
after it, was the character before. -/
def stripPadding (afterLetter : Bool) : List Char → List Char
  | [] => []
  | c :: rest =>
    if afterLetter && c == '0' && rest.head?.any Text.isDecimalDigit then
      stripPadding true rest
    else c :: stripPadding (isLetter c) rest

/-- The canonical spelling, on characters. -/
def canonical (cs : List Char) : List Char :=
  stripPadding false (Text.lower (Text.trim cs))

/-- The canonical spelling: trimmed, in lower case, ordinals without padding. -/
def normalize (s : String) : String := String.ofList (canonical s.toList)

end SitePlan.Xname
