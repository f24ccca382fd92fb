import SitePlan.Text.LowerCase.WordEnd
import SitePlan.Text.Quoted.Unprinted

/-!
# Quoted text

Text from an input as messages show it: between double quotes, with a backslash before
quotes and backslashes, short names for the common controls, and every other character
that would not show written by its number in hexadecimal.
-/

namespace SitePlan.Text

/-- A character as it appears between the quotes. -/
def quotedChar (c : Char) : List Char :=
  if c = '"' then ['\\', '"']
  else if c = '\\' then ['\\', '\\']
  else if c = '\n' then ['\\', 'n']
  else if c = '\r' then ['\\', 'r']
  else if c = '\t' then ['\\', 't']
  else if c = '\x00' then ['\\', '0']
  else if inRanges unprintedRanges c then
    ['\\', 'u', '\x7b'] ++ Nat.toDigits 16 c.toNat ++ ['\x7d']
  else [c]

/-- The text between double quotes. -/
def quoted (s : String) : String :=
  String.ofList ('"' :: s.toList.flatMap quotedChar ++ ['"'])

end SitePlan.Text
