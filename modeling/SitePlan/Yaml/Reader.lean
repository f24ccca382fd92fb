import SitePlan.Yaml.Token

/-!
# Reading YAML

A collection that is not closed yet is kept as its parts so far: values and the marks
between them. When it is closed, its parts become its items or fields. A text holds one
document.
-/

namespace SitePlan.Yaml

/-- A part of a collection. -/
inductive Part
  | node (value : Yaml)
  | entry
  | key
  | value
  | comma

namespace Part

/-- The mark of an entry. -/
def isEntry : Part → Bool
  | entry => true
  | _ => false

/-- The mark of a key or a value. -/
def isFieldMark : Part → Bool
  | key | value => true
  | _ => false

/-- A comma. -/
def isComma : Part → Bool
  | comma => true
  | _ => false

/-- Parts cut at marks: what comes before the first mark, and every mark with what comes
after it. -/
def cut (isMark : Part → Bool) : List Part → List Part × List (Part × List Part)
  | [] => ([], [])
  | part :: rest =>
    let (first, pieces) := cut isMark rest
    if isMark part then ([], (part, first) :: pieces) else (part :: first, pieces)

/-- At most one value. -/
def value? : List Part → Option Yaml
  | [] => some .nothing
  | [node v] => some v
  | _ => none

/-- The items of a sequence in which every item has its mark. -/
def entries? (parts : List Part) : Option (List Yaml) :=
  match cut isEntry parts with
  | ([], pieces) => pieces.mapM fun piece => value? piece.2
  | _ => none

/-- A key or a value of a block mapping; a sequence may stand there without being further
in than the mapping. -/
def blockValue? (parts : List Part) : Option Yaml :=
  match parts with
  | entry :: _ => (entries? parts).map .sequence
  | _ => value? parts

/-- The fields of a block mapping, from its keys and values. -/
def blockFields? : List (Part × List Part) → Option (List (Yaml × Yaml))
  | [] => some []
  | (key, k) :: (value, v) :: rest => do
    return (← blockValue? k, ← blockValue? v) :: (← blockFields? rest)
  | (key, k) :: rest => do return (← blockValue? k, .nothing) :: (← blockFields? rest)
  | _ => none

/-- The pieces of a flow collection; after the last one a comma may stand. -/
def flowPieces (parts : List Part) : List (List Part) :=
  let (first, more) := cut isComma parts
  let pieces := first :: more.map Prod.snd
  if pieces.getLast?.any List.isEmpty then pieces.dropLast else pieces

/-- An item of a flow sequence, which may be a field by itself. -/
def flowItem? : List Part → Option Yaml
  | [node v] => some v
  | key :: node k :: rest =>
    match rest with
    | [] | [value] => some (.mapping [(k, .nothing)])
    | [value, node v] => some (.mapping [(k, v)])
    | _ => none
  | _ => none

/-- A field of a flow mapping. -/
def flowField? : List Part → Option (Yaml × Yaml)
  | [node k] | [key, node k] | [key, node k, value] => some (k, .nothing)
  | [key] | [key, value] => some (.nothing, .nothing)
  | [key, node k, value, node v] => some (k, v)
  | [key, value, node v] => some (.nothing, v)
  | _ => none

end Part

/-- The value of a collection with these parts. -/
def collect? (bracket : Bracket) (parts : List Part) : Option Yaml :=
  match bracket with
  | .blockSequence => (Part.entries? parts).map .sequence
  | .blockMapping =>
    match Part.cut Part.isFieldMark parts with
    | ([], pieces) => (Part.blockFields? pieces).map .mapping
    | _ => none
  | .flowSequence => ((Part.flowPieces parts).mapM Part.flowItem?).map .sequence
  | .flowMapping => ((Part.flowPieces parts).mapM Part.flowField?).map .mapping

/-- A token that comes after a key in a flow sequence. -/
def Token.followsKey : Token → Bool
  | .value | .comma | .closingFlow .flowSequence => true
  | _ => false

/-- What has been read of a document. -/
structure Reading where
  /-- The parts of the innermost collection that is not closed, newest first. -/
  parts : List Part := []
  /-- The kinds of the collections that are not closed, innermost first, each with the
  parts of the collection around it. -/
  stack : List (Bracket × List Part) := []

namespace Reading

/-- Adds a part to the innermost collection. -/
def add (r : Reading) (part : Part) : Reading := { r with parts := part :: r.parts }

/-- Closes the innermost collection, which must be of a kind that ends so. -/
def close? (r : Reading) (ends : Bracket → Bool) : Option Reading :=
  match r.stack with
  | [] => none
  | (bracket, outer) :: stack =>
    if ends bracket then
      (collect? bracket r.parts.reverse).map fun v => ⟨.node v :: outer, stack⟩
    else none

/-- In a flow sequence the mark of a key was read last. -/
def awaitsKey (r : Reading) : Bool :=
  match r.parts, r.stack with
  | .key :: _, (.flowSequence, _) :: _ => true
  | _, _ => false

/-- The next token of the document is read. Where a flow sequence awaits a key, the token
that would come after one is taken for an empty key. -/
def step (r : Reading) (token : Token) : Option Reading :=
  if r.awaitsKey && token.followsKey then some (r.add (.node .nothing))
  else
    match token with
    | .scalar v => some (r.add (.node v))
    | .opening bracket => some ⟨[], (bracket, r.parts) :: r.stack⟩
    | .closingBlock => r.close? fun b => b = .blockSequence || b = .blockMapping
    | .closingFlow bracket => r.close? fun b => b = bracket
    | .entry => some (r.add .entry)
    | .key => some (r.add .key)
    | .value => some (r.add .value)
    | .comma => some (r.add .comma)
    | .documentStart | .documentEnd => none

end Reading

/-- The mark of a document's end. -/
def Token.isDocumentEnd : Token → Bool
  | documentEnd => true
  | _ => false

/-- The value of a document, and whether anything is written in it. -/
def document? (tokens : List Token) : Option (Yaml × Bool) := do
  let body := tokens.takeWhile fun t => !t.isDocumentEnd
  if (tokens.dropWhile fun t => !t.isDocumentEnd).all Token.isDocumentEnd then
    let r ← body.foldlM Reading.step {}
    if r.stack.isEmpty then return (← Part.value? r.parts, !r.parts.isEmpty) else none
  else none

/-- The value of a YAML text. A text without any token holds nothing. -/
def parse? (text : String) : Option Yaml := do
  match ← tokens? text with
  | [] => return .nothing
  | .documentStart :: tokens => return (← document? tokens).1
  | tokens => do
    let (v, isWritten) ← document? tokens
    if isWritten then return v else none

end SitePlan.Yaml
