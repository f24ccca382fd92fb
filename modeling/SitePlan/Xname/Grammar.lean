import SitePlan.Text.Digit
import SitePlan.Xname.Error

/-!
# Reading location names

A location name is a sequence of segments, each a letter with the digits of its
ordinal. Reading splits the text into segments; the letters then say what the name
denotes. Nothing else is a location name, and the root is written `s0` only.
-/

namespace SitePlan.Xname

/-- One step into the machine room: a letter and the digits of its ordinal as written. -/
structure Segment where
  /-- The kind of step. -/
  letter : Char
  /-- The ordinal, in decimal digits of any script. -/
  digits : List Char
  deriving DecidableEq

/-- The segment as written. -/
def Segment.render (segment : Segment) : List Char := segment.letter :: segment.digits

/-- The segments of a text and the digits in front of the first one, read from the
right: a letter without digits after it is a fault. -/
def scan : List Char → Option (List Char × List Segment)
  | [] => some ([], [])
  | c :: rest =>
    match scan rest with
    | none => none
    | some (digits, segments) =>
      if Text.isDecimalDigit c then some (c :: digits, segments)
      else if digits.isEmpty then none
      else some ([], ⟨c, digits⟩ :: segments)

/-- The segments of a text that consists of segments. -/
def segments? (s : String) : Option (List Segment) :=
  match scan s.toList with
  | some ([], segments) => some segments
  | _ => none

/-- The segments as written, one after another. -/
def render (segments : List Segment) : String :=
  String.ofList (segments.flatMap Segment.render)

/-- What a sequence of segments denotes: its letters are those of a kind, and the root
has the single digit zero. -/
def kindOfSegments? (segments : List Segment) : Option Kind :=
  match Kind.ofLetters? (segments.map Segment.letter) with
  | some .system => if segments = [⟨'s', ['0']⟩] then some .system else none
  | kind => kind

/-- The system root. -/
def root : String := "s0"

/-- A location name taken apart: its kind and its segments. -/
def parse? (s : String) : Option (Kind × List Segment) := do
  let segments ← segments? s
  let kind ← kindOfSegments? segments
  return (kind, segments)

/-- What the text denotes, if it is a location name. -/
def kind? (s : String) : Option Kind :=
  (parse? s).map Prod.fst

/-- The text is a location name. -/
def isValid (s : String) : Bool :=
  (kind? s).isSome

/-- The ordinal of a segment, when it is written in ASCII digits and fits in 32 bits. -/
def Segment.ordinal? (segment : Segment) : Option UInt32 := do
  let n ← Text.readNat? segment.digits
  if n < UInt32.size then some n.toUInt32 else none

/-- The ordinals of the segments of `xname`; the first one that cannot be read is the
fault. -/
def ordinalsOf (xname : String) : List Segment → Except Error (List UInt32)
  | [] => .ok []
  | segment :: rest =>
    match segment.ordinal? with
    | none => .error (.ordinalOutOfRange xname (String.ofList segment.digits))
    | some n =>
      match ordinalsOf xname rest with
      | .error fault => .error fault
      | .ok ns => .ok (n :: ns)

/-- The ordinals of a location name, outermost first. The root has none. -/
def ordinals (s : String) : Except Error (List UInt32) :=
  match parse? s with
  | none => .error (.invalid s)
  | some (.system, _) => .ok []
  | some (_, segments) => ordinalsOf s segments

/-- The ordinals of a location name that must be of the expected kind. -/
def ordinalsOfKind (expected : Kind) (s : String) : Except Error (List UInt32) :=
  match kind? s with
  | none => .error (.invalid s)
  | some actual =>
    if actual = expected then ordinals s else .error (.wrongKind s expected actual)

/-- The location name of the enclosing component, with the ordinals as they are written
here. What stands on the floor is enclosed by the root. -/
def parent (s : String) : Except Error String :=
  match parse? s with
  | none => .error (.invalid s)
  | some (.system, _) => .error (.noParent s)
  | some (_, segments) =>
    match segments.dropLast with
    | [] => .ok root
    | outer => .ok (render outer)

/-- A text that scans is its leading digits followed by its segments. -/
theorem eq_of_scan {cs digits : List Char} {segments : List Segment}
    (h : scan cs = some (digits, segments)) :
    cs = digits ++ segments.flatMap Segment.render := by
  induction cs generalizing digits segments with
  | nil =>
    simp only [scan, Option.some.injEq, Prod.mk.injEq] at h
    simp [← h.1, ← h.2]
  | cons c rest ih =>
    simp only [scan] at h
    split at h
    · cases h
    · next ds segs hrest =>
      have hcs := ih hrest
      split at h
      · simp only [Option.some.injEq, Prod.mk.injEq] at h
        simp [← h.1, ← h.2, ← hcs]
      · split at h
        · cases h
        · simp only [Option.some.injEq, Prod.mk.injEq] at h
          simp [← h.1, ← h.2, Segment.render, hcs]

/-- A text is its segments, written one after another. -/
theorem render_of_segments? {s : String} {segments : List Segment}
    (h : segments? s = some segments) : render segments = s := by
  unfold segments? at h
  split at h
  · next segs hscan =>
    simp only [Option.some.injEq] at h
    have hcs := eq_of_scan hscan
    rw [← h, render, ← List.nil_append (segs.flatMap Segment.render), ← hcs,
      String.ofList_toList]
  · cases h

end SitePlan.Xname
