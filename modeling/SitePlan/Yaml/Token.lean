import SitePlan.Yaml.Scalar

/-!
# YAML tokens

Flow collections are written with brackets, block collections by how far their lines are
indented. Indentation is turned into brackets here: a block collection is opened where
its first entry stands further in than the entries around it, and closed before the first
token that stands further out. A key of a mapping is known by the colon after it, so the
places where keys may have begun are kept until their lines end.
-/

namespace SitePlan.Yaml

/-- The kinds of collections. -/
inductive Bracket
  | blockSequence
  | blockMapping
  | flowSequence
  | flowMapping
  deriving DecidableEq

/-- A token of a YAML text. -/
inductive Token
  | scalar (value : Yaml)
  | opening (bracket : Bracket)
  /-- The end of a block collection of either kind. -/
  | closingBlock
  | closingFlow (bracket : Bracket)
  /-- The mark of an entry of a block sequence. -/
  | entry
  | key
  | value
  | comma
  | documentStart
  | documentEnd

/-- A place where a key of a mapping may have begun. -/
structure PossibleKey where
  /-- How many tokens come before the key. -/
  tokensBefore : Nat
  place : Place
  /-- Nothing but a key may stand here. -/
  required : Bool

/-- How many bytes long a key may be. -/
def longestKey : Nat := 1024

/-- The key has not ended in time to be one. -/
def PossibleKey.isOver (key : PossibleKey) (place : Place) : Bool :=
  key.place.line < place.line || key.place.index + longestKey < place.index

/-- What has been read of a text. -/
structure Scan where
  /-- The tokens, newest first. -/
  tokens : List Token := []
  /-- The columns of the open block collections, innermost first. -/
  indents : List Nat := []
  /-- Where a key may have begun in the innermost flow collection, or outside of all. -/
  possibleKey : Option PossibleKey := none
  /-- The same for the collections around it, innermost first. -/
  outerKeys : List (Option PossibleKey) := []
  /-- A key may begin here. -/
  keyAllowed : Bool := true

namespace Scan

/-- The place is inside of a flow collection. -/
def inFlow (s : Scan) : Bool := !s.outerKeys.isEmpty

/-- Adds a token. -/
def push (s : Scan) (token : Token) : Scan := { s with tokens := token :: s.tokens }

/-- Opens a block collection at a column that is further in than those around it. -/
def openBlock (s : Scan) (column : Nat) (bracket : Bracket) : Scan :=
  if !s.inFlow && s.indents.head?.all (· < column) then
    { s.push (.opening bracket) with indents := column :: s.indents }
  else s

/-- Closes block collections. -/
def closeBlocks (s : Scan) (count : Nat) : Scan :=
  { s with
    tokens := List.replicate count .closingBlock ++ s.tokens
    indents := s.indents.drop count }

/-- Closes the block collections that stand further in than a column. -/
def closeBeyond (s : Scan) (column : Nat) : Scan :=
  if s.inFlow then s else s.closeBlocks (s.indents.takeWhile (column < ·)).length

/-- Closes all block collections. -/
def closeAll (s : Scan) : Scan := if s.inFlow then s else s.closeBlocks s.indents.length

/-- A key that is over is none; it is a fault if one had to stand there. -/
def settleKey (place : Place) : Option PossibleKey → Option (Option PossibleKey)
  | none => some none
  | some key =>
    if !key.isOver place then some (some key)
    else if key.required then none
    else some none

/-- Settles all possible keys that are over. -/
def settleKeys (s : Scan) (place : Place) : Option Scan := do
  let innermost ← settleKey place s.possibleKey
  let outer ← s.outerKeys.mapM (settleKey place)
  return { s with possibleKey := innermost, outerKeys := outer }

/-- What may have been a key of the innermost collection is none. -/
def dropKey (s : Scan) : Option Scan :=
  if s.possibleKey.any PossibleKey.required then none
  else some { s with possibleKey := none }

/-- A key may begin with the next token. -/
def saveKey (s : Scan) (place : Place) : Option Scan :=
  if s.keyAllowed then do
    let s ← s.dropKey
    let required := !s.inFlow && s.indents.head? = some place.column
    return { s with possibleKey := some ⟨s.tokens.length, place, required⟩ }
  else some s

/-- Puts the mark of a key before it, and before that the start of the mapping if the key
is its first one. -/
def markKey (s : Scan) (key : PossibleKey) : Scan :=
  let inside := s.tokens.take (s.tokens.length - key.tokensBefore)
  let before := { s with tokens := s.tokens.drop (s.tokens.length - key.tokensBefore) }
  let marked := (before.openBlock key.place.column .blockMapping).push .key
  { marked with tokens := inside ++ marked.tokens }

/-- Opens a flow collection. -/
def openFlow (s : Scan) (place : Place) (bracket : Bracket) : Option Scan := do
  let s ← s.saveKey place
  return { s.push (.opening bracket) with
    possibleKey := none
    outerKeys := s.possibleKey :: s.outerKeys
    keyAllowed := true }

/-- Closes a flow collection. -/
def closeFlow (s : Scan) (bracket : Bracket) : Option Scan := do
  let s ← s.dropKey
  return { s.push (.closingFlow bracket) with
    possibleKey := s.outerKeys.headD none
    outerKeys := s.outerKeys.tail
    keyAllowed := false }

/-- A comma. -/
def addComma (s : Scan) : Option Scan := do
  let s ← s.dropKey
  return { s.push .comma with keyAllowed := true }

/-- The mark of an entry of a block sequence. -/
def addEntry (s : Scan) (place : Place) : Option Scan := do
  if !s.inFlow && !s.keyAllowed then none
  let s ← (s.openBlock place.column .blockSequence).dropKey
  return { s.push .entry with keyAllowed := true }

/-- A mark that says that a key follows. -/
def addKeyMark (s : Scan) (place : Place) : Option Scan := do
  if !s.inFlow && !s.keyAllowed then none
  let s ← (s.openBlock place.column .blockMapping).dropKey
  return { s.push .key with keyAllowed := !s.inFlow }

/-- The mark between a key and its value. -/
def addValueMark (s : Scan) (place : Place) : Option Scan :=
  match s.possibleKey with
  | some key =>
    some { (s.markKey key).push .value with possibleKey := none, keyAllowed := false }
  | none =>
    if !s.inFlow && !s.keyAllowed then none
    else
      let s := s.openBlock place.column .blockMapping
      some { s.push .value with keyAllowed := !s.inFlow }

/-- A mark between documents. -/
def addDocumentMark (s : Scan) (mark : Token) : Option Scan := do
  let s ← s.closeAll.dropKey
  return { s.push mark with keyAllowed := false }

/-- A scalar. -/
def addScalar (s : Scan) (place : Place) (scalar : Scalar) : Option Scan := do
  let s ← s.saveKey place
  return { s.push (.scalar scalar.value) with keyAllowed := scalar.endsLine }

end Scan

/-- A place in a text with what follows it. -/
structure Cursor where
  place : Place
  rest : List Char

/-- A byte order mark. It may stand at the start of any line, where it takes up a column. -/
def byteOrderMark : Char := '\ufeff'

/-- White space and comments are left out up to the next token. Tabs may not stand where a
key may begin, outside of flow collections; a new line may begin with a key. -/
def skipGap (inFlow keyAllowed inComment : Bool) (place : Place) : List Char → Bool × Cursor
  | [] => (keyAllowed, ⟨place, []⟩)
  | c :: rest =>
    if isBreak c then skipGap inFlow (keyAllowed || !inFlow) false (place.after c) rest
    else if inComment || c = ' ' || (c = '\t' && (inFlow || !keyAllowed)) ||
        (c = byteOrderMark && place.column = 0) then
      skipGap inFlow keyAllowed inComment (place.after c) rest
    else if c = '#' then skipGap inFlow keyAllowed true (place.after c) rest
    else (keyAllowed, ⟨place, c :: rest⟩)

/-- Characters that no plain scalar begins with. -/
def indicators : List Char :=
  ['-', '?', ':', ',', '[', ']', '\x7b', '\x7d', '#', '&', '*', '!', '|', '>', '\x27', '"',
    '%', '@', '\x60']

/-- A plain scalar begins with this character. -/
def beginsPlain (inFlow : Bool) (c : Char) (rest : List Char) : Bool :=
  (!isGap c && !indicators.contains c) ||
    (c = '-' && !rest.head?.any fun d => d = ' ' || d = '\t') ||
    (!inFlow && (c = '?' || c = ':') && !endsWord rest)

/-- The column that further lines of a plain scalar must reach. -/
def Scan.margin (s : Scan) : Nat := s.indents.head?.elim 0 (· + 1)

/-- Reads a token that begins with this character, outside of white space. -/
def Scan.token (s : Scan) (place : Place) (c : Char) (rest : List Char) :
    Option (Scan × Cursor) :=
  let one (result : Option Scan) : Option (Scan × Cursor) :=
    result.map fun s => (s, ⟨place.after c, rest⟩)
  let scalar (result : Option Scalar) : Option (Scan × Cursor) := do
    let scalar ← result
    return (← s.addScalar place scalar, ⟨scalar.place, scalar.rest⟩)
  if place.column = 0 && isDocumentMark (c :: rest) then
    let mark : Token := if c = '-' then .documentStart else .documentEnd
    (s.addDocumentMark mark).map fun s =>
      (s, ⟨⟨place.line, 3, place.index + 3⟩, rest.drop 2⟩)
  else if place.column = 0 && c = '%' then none
  else if c = '[' then one (s.openFlow place .flowSequence)
  else if c = '\x7b' then one (s.openFlow place .flowMapping)
  else if c = ']' then one (s.closeFlow .flowSequence)
  else if c = '\x7d' then one (s.closeFlow .flowMapping)
  else if c = ',' then one s.addComma
  else if c = '-' && endsWord rest then one (s.addEntry place)
  else if c = '?' && (s.inFlow || endsWord rest) then one (s.addKeyMark place)
  else if c = ':' && (s.inFlow || endsWord rest) then one (s.addValueMark place)
  else if c = '\x27' then scalar (quotedFrom false .text false [] [] (place.after c) rest)
  else if c = '"' then scalar (quotedFrom true .text false [] [] (place.after c) rest)
  else if beginsPlain s.inFlow c rest then
    scalar (plainFrom s.inFlow s.margin [] [] place (c :: rest))
  else none

/-- The tokens of the rest of a text, after those that were read. Every step must shorten
the rest. -/
def tokensFrom (s : Scan) (cursor : Cursor) : Option (List Token) := do
  let (keyAllowed, next) := skipGap s.inFlow s.keyAllowed false cursor.place cursor.rest
  let s ← { s with keyAllowed := keyAllowed }.settleKeys next.place
  let s := s.closeBeyond next.place.column
  match next.rest with
  | [] => do
    let s ← s.closeAll.dropKey
    return s.tokens.reverse
  | c :: rest => do
    let (s, after) ← s.token next.place c rest
    if _ : after.rest.length < cursor.rest.length then tokensFrom s after else none
termination_by cursor.rest.length

/-- A character that may stand in a text. -/
def isAllowed (c : Char) : Bool :=
  let n := c.toNat
  n = 0x9 || n = 0xA || n = 0xD || (0x20 ≤ n && n ≤ 0x7E) || n = 0x85 ||
    (0xA0 ≤ n && n ≤ 0xFFFD) || 0x10000 ≤ n

/-- A text with one spelling of line breaks. -/
def unifyBreaks : List Char → List Char
  | [] => []
  | '\r' :: '\n' :: rest => '\n' :: unifyBreaks rest
  | c :: rest => (if c = '\r' || c = '\u0085' then '\n' else c) :: unifyBreaks rest

/-- The tokens of a text. -/
def tokens? (text : String) : Option (List Token) :=
  let cs := text.toList
  if cs.all isAllowed then tokensFrom {} ⟨{}, unifyBreaks cs⟩ else none

end SitePlan.Yaml
