/-!
# White space

The characters that may surround a field without being part of it, and the field
that remains without them.
-/

namespace SitePlan.Text

/-- White space of any script: the controls from tab to carriage return, the next-line
control, the line and paragraph separators and the space characters. -/
def isBlank (c : Char) : Bool :=
  let n := c.toNat
  (0x9 ≤ n && n ≤ 0xD) || n == 0x20 || n == 0x85 || n == 0xA0 || n == 0x1680 ||
    (0x2000 ≤ n && n ≤ 0x200A) || n == 0x2028 || n == 0x2029 || n == 0x202F ||
    n == 0x205F || n == 0x3000

/-- The text without the white space at its end. -/
def trimRight (cs : List Char) : List Char :=
  (cs.reverse.dropWhile isBlank).reverse

/-- The text without the white space around it. -/
def trim (cs : List Char) : List Char :=
  trimRight (cs.dropWhile isBlank)

/-- A text without the white space around it. -/
def trimText (s : String) : String := String.ofList (trim s.toList)

/-- Nothing of a trimmed text's end is white space. -/
theorem not_isBlank_of_getLast?_trimRight {cs : List Char} {c : Char}
    (h : (trimRight cs).getLast? = some c) : isBlank c = false := by
  rw [trimRight, List.getLast?_reverse] at h
  have hdrop := List.head?_dropWhile_not isBlank cs.reverse
  rw [h] at hdrop
  simpa using hdrop

end SitePlan.Text
