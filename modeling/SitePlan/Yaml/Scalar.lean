import SitePlan.Text.Digit
import SitePlan.Yaml

/-!
# YAML scalars

A scalar may go on over several lines. White space within a line is kept; a line break
becomes a space, and further breaks after it are kept. Between double quotes characters
may be named by a backslash, and a backslash at the end of a line joins it to the next.
-/

namespace SitePlan.Yaml

/-- A place in a text. -/
structure Place where
  line : Nat := 0
  column : Nat := 0
  /-- How many bytes come before. -/
  index : Nat := 0

/-- A line ends here. -/
def isBreak (c : Char) : Bool := c = '\n' || c = '\u2028' || c = '\u2029'

/-- White space in a line or between lines. -/
def isGap (c : Char) : Bool := c = ' ' || c = '\t' || isBreak c

/-- The place after a character. -/
def Place.after (p : Place) (c : Char) : Place :=
  let index := p.index + c.utf8Size
  if isBreak c then ⟨p.line + 1, 0, index⟩ else ⟨p.line, p.column + 1, index⟩

/-- White space follows, or the end of the text. -/
def endsWord (rest : List Char) : Bool := rest.head?.all isGap

/-- Three dashes or three points by themselves, which mark the ends of a document at the
start of a line. -/
def isDocumentMark : List Char → Bool
  | '-' :: '-' :: '-' :: rest | '.' :: '.' :: '.' :: rest => endsWord rest
  | _ => false

/-- A scalar that was read, and where it ends. -/
structure Scalar where
  value : Yaml
  place : Place
  rest : List Char
  /-- A line break came after the scalar and was read too. -/
  endsLine : Bool := false

/-- What white space between two words of a scalar stands for. -/
def fold (gap : List Char) : List Char :=
  match gap.filter isBreak with
  | [] => gap
  | ['\n'] => [' ']
  | '\n' :: more => more
  | breaks => breaks

/-- The characters that end a plain scalar in a flow collection. -/
def flowIndicators : List Char := [',', '[', ']', '\x7b', '\x7d']

/-- A plain scalar does not go on with this character, the next one that is no white space;
the white space before it is given newest first. -/
def endsPlain (inFlow : Bool) (margin : Nat) (gap : List Char) (place : Place) (c : Char)
    (rest : List Char) : Bool :=
  (gap.any isBreak && !inFlow && place.column < margin) ||
    (place.column = 0 && isDocumentMark (c :: rest)) ||
    (!gap.isEmpty && c = '#') ||
    (c = ':' && endsWord rest) ||
    (inFlow && flowIndicators.contains c)

/-- Reads on in a plain scalar. What was written and the white space after it are given
newest first. Further lines must reach the margin, and tabs do not help them to. -/
def plainFrom (inFlow : Bool) (margin : Nat) (written gap : List Char) (place : Place) :
    List Char → Option Scalar
  | [] => some ⟨.plain (String.ofList written.reverse), place, [], gap.any isBreak⟩
  | c :: rest =>
    if isGap c then
      if c = '\t' && gap.any isBreak && place.column < margin then none
      else plainFrom inFlow margin written (c :: gap) (place.after c) rest
    else if endsPlain inFlow margin gap place c rest then
      some ⟨.plain (String.ofList written.reverse), place, c :: rest, gap.any isBreak⟩
    else if inFlow && c = ':' && rest.head?.any (('?' :: flowIndicators).contains ·) then none
    else
      plainFrom inFlow margin (c :: (fold gap.reverse).reverse ++ written) [] (place.after c) rest

/-- How the next character between quotes is read. -/
inductive QuoteState
  /-- As itself. -/
  | text
  /-- After a backslash. -/
  | escape
  /-- As a hexadecimal digit of a character's code. -/
  | code (digits value : Nat)
  /-- After a single quote, which is text if another one follows. -/
  | quote

/-- The character that a backslash and a letter stand for. -/
def escape? : Char → Option Char
  | '0' => some '\x00'
  | 'a' => some '\x07'
  | 'b' => some '\x08'
  | 't' | '\t' => some '\t'
  | 'n' => some '\n'
  | 'v' => some '\x0b'
  | 'f' => some '\x0c'
  | 'r' => some '\r'
  | 'e' => some '\x1b'
  | ' ' => some ' '
  | '"' => some '"'
  | '/' => some '/'
  | '\\' => some '\\'
  | 'N' => some '\u0085'
  | '_' => some '\u00a0'
  | 'L' => some '\u2028'
  | 'P' => some '\u2029'
  | _ => none

/-- How many digits a code has after a backslash and this letter. -/
def codeLength? : Char → Option Nat
  | 'x' => some 2
  | 'u' => some 4
  | 'U' => some 8
  | _ => none

/-- The character with this code. -/
def char? (code : Nat) : Option Char :=
  if code.isValidChar then some (Char.ofNat code) else none

/-- Reads on between quotes. What was written and the white space after it are given
newest first; the white space stands for its line breaks only if a backslash joins the
lines before it. -/
def quotedFrom (isDouble : Bool) (state : QuoteState) (joins : Bool) (written gap : List Char)
    (place : Place) : List Char → Option Scalar
  | [] =>
    match state with
    | .quote => some ⟨.quoted (String.ofList written.reverse), place, [], false⟩
    | _ => none
  | c :: rest =>
    match state with
    | .text =>
      if isGap c then
        quotedFrom isDouble .text joins written (c :: gap) (place.after c) rest
      else if place.column = 0 && isDocumentMark (c :: rest) then none
      else
        let gapText := if joins then gap.filter isBreak else (fold gap.reverse).reverse
        let written := gapText ++ written
        if isDouble && c = '"' then
          some ⟨.quoted (String.ofList written.reverse), place.after c, rest, false⟩
        else
          let next : QuoteState :=
            if isDouble && c = '\\' then .escape
            else if !isDouble && c = '\x27' then .quote
            else .text
          let written := match next with
            | .text => c :: written
            | _ => written
          quotedFrom isDouble next false written [] (place.after c) rest
    | .escape =>
      if isBreak c then quotedFrom isDouble .text true written [] (place.after c) rest
      else
        match escape? c, codeLength? c with
        | some e, _ => quotedFrom isDouble .text false (e :: written) [] (place.after c) rest
        | none, some digits =>
          quotedFrom isDouble (.code digits 0) false written [] (place.after c) rest
        | none, none => none
    | .code digits value =>
      match Text.hexDigit? c with
      | none => none
      | some d =>
        let value := 16 * value + d
        if digits = 1 then
          match char? value with
          | none => none
          | some e => quotedFrom isDouble .text false (e :: written) [] (place.after c) rest
        else
          quotedFrom isDouble (.code (digits - 1) value) false written [] (place.after c) rest
    | .quote =>
      if c = '\x27' then
        quotedFrom isDouble .text false (c :: written) [] (place.after c) rest
      else some ⟨.quoted (String.ofList written.reverse), place, c :: rest, false⟩

end SitePlan.Yaml
