import Mathlib.Data.List.Forall2
import SitePlan.Proofs.Outcome
import SitePlan.Proofs.Xname.Spelling
import SitePlan.Xname.Component

/-!
# Components and their names

A component's location name is the segments of its kind's letters and its ordinals, so what
is read from the name, as text or as a component, is what the component says of itself.
In the other direction a name denotes a component only if its ordinals can be read, and the
component is then written in the name's canonical spelling.
-/

namespace SitePlan.Xname

open Outcome

/-! ### Ordinals -/

/-- The segment of a letter and an ordinal, which is written without padding. -/
def Segment.ofOrdinal (letter : Char) (n : UInt32) : Segment :=
  ⟨letter, Nat.toDigits 10 n.toNat⟩

/-- The ordinal that is written without padding is read back. -/
theorem ordinal?_ofOrdinal (letter : Char) (n : UInt32) :
    (Segment.ofOrdinal letter n).ordinal? = some n := by
  have hfits : n.toNat < UInt32.size := n.toNat_lt
  simp [Segment.ofOrdinal, Segment.ordinal?, Text.readNat?_toDigits, hfits]

/-- An ordinal is read exactly if it is written in ASCII digits that denote it. -/
theorem ordinal?_eq_some_iff {segment : Segment} {n : UInt32} :
    segment.ordinal? = some n ↔
      segment.digits ≠ [] ∧ segment.digits.all Char.isDigit = true ∧
        Text.decimalValue segment.digits = n.toNat := by
  by_cases hdigits : segment.digits ≠ [] ∧ segment.digits.all Char.isDigit = true
  · have hread : Text.readNat? segment.digits =
        some (Text.decimalValue segment.digits) := by
      rw [Text.decimalValue_eq_ofDigitChars hdigits.2, Text.readNat?, if_pos]
      simpa using hdigits
    simp only [Segment.ordinal?, hread, Option.bind_eq_bind, Option.bind_some, hdigits.1,
      hdigits.2, ne_eq, not_false_eq_true, true_and]
    split
    · next hfits =>
      rw [Option.some.injEq]
      constructor
      · rintro rfl
        exact (UInt32.toNat_ofNat_of_lt' hfits).symm
      · intro h
        rw [h]
        exact UInt32.ofNat_toNat
    · next hlarge =>
      have hn : n.toNat < UInt32.size := n.toNat_lt
      simp only [reduceCtorEq, false_iff]
      omega
  · have hnone : Text.readNat? segment.digits = none := by
      rw [Text.readNat?, if_neg]
      simpa using hdigits
    simp only [Segment.ordinal?, hnone, Option.bind_eq_bind, Option.bind_none, reduceCtorEq,
      false_iff]
    exact fun h => hdigits ⟨h.1, h.2.1⟩

/-- A segment whose ordinal is read is the unpadded segment but for padding. -/
theorem unpadded_of_ordinal? {segment : Segment} {n : UInt32}
    (h : segment.ordinal? = some n) :
    segment.unpadded = .ofOrdinal segment.letter n := by
  obtain ⟨hsome, hall, hvalue⟩ := ordinal?_eq_some_iff.mp h
  rw [Segment.unpadded, Text.unpad_eq_toDigits hsome hall,
    ← Text.decimalValue_eq_ofDigitChars hall, hvalue, Segment.ofOrdinal]

/-- The ordinals of segments are read exactly if each of them is. -/
theorem ordinalsOf_eq_ok {s : String} {segments : List Segment} {ns : List UInt32} :
    ordinalsOf s segments = .ok ns ↔
      List.Forall₂ (fun segment n => segment.ordinal? = some n) segments ns := by
  induction segments generalizing ns with
  | nil => cases ns <;> simp [ordinalsOf]
  | cons segment rest ih =>
    unfold ordinalsOf
    cases hfirst : segment.ordinal? with
    | none =>
      simp only [reduceCtorEq, false_iff]
      rintro (_ | ⟨hn, _⟩)
      exact absurd (hfirst.symm.trans hn) (by simp)
    | some n =>
      cases hrest : ordinalsOf s rest with
      | error fault =>
        simp only [reduceCtorEq, false_iff]
        rintro (_ | ⟨_, hns⟩)
        exact absurd (hrest.symm.trans (ih.mpr hns)) (by simp)
      | ok more =>
        rw [Except.ok.injEq]
        constructor
        · rintro rfl
          exact .cons hfirst (ih.mp hrest)
        · rintro (_ | ⟨hn, hns⟩)
          rw [Option.some.inj (hfirst.symm.trans hn),
            Except.ok.inj (hrest.symm.trans (ih.mpr hns))]

/-- Segments can be read exactly if each of their ordinals can. -/
theorem exists_ordinalsOf {s : String} {segments : List Segment} :
    (∃ ns, ordinalsOf s segments = .ok ns) ↔
      ∀ segment ∈ segments, ∃ n, segment.ordinal? = some n := by
  simp only [ordinalsOf_eq_ok]
  induction segments with
  | nil => exact ⟨fun _ => by simp, fun _ => ⟨[], .nil⟩⟩
  | cons segment rest ih =>
    rw [List.forall_mem_cons, ← ih]
    constructor
    · rintro ⟨_, _ | ⟨hn, hns⟩⟩
      exact ⟨⟨_, hn⟩, _, hns⟩
    · rintro ⟨⟨n, hn⟩, ns, hns⟩
      exact ⟨n :: ns, .cons hn hns⟩

/-- The ordinals of a location name other than the root are those of its segments. -/
theorem ordinals_of_parse? {s : String} {kind : Kind} {segments : List Segment}
    (h : parse? s = some (kind, segments)) (hroot : kind ≠ .system) :
    ordinals s = ordinalsOf s segments := by
  unfold ordinals
  rw [h]
  split
  · next hnone => cases hnone
  · next hsystem =>
    cases hsystem
    exact absurd rfl hroot
  · next hsome =>
    cases hsome
    rfl

/-- Segments whose ordinals are read are unpadded when each is written anew. -/
theorem zipWith_of_ordinals {segments : List Segment} {ns : List UInt32}
    (hread : List.Forall₂ (fun segment n => segment.ordinal? = some n) segments ns) :
    List.zipWith .ofOrdinal (segments.map Segment.letter) ns =
      segments.map Segment.unpadded := by
  induction hread with
  | nil => rfl
  | cons hn _ ih =>
    rw [List.map_cons, List.map_cons, List.zipWith_cons_cons, ih, unpadded_of_ordinal? hn]

/-- The segments of a location name of this kind with these ordinals, without padding. -/
def canonicalSegments : Kind → List UInt32 → List Segment
  | .system, _ => [⟨'s', ['0']⟩]
  | kind, ns => List.zipWith .ofOrdinal kind.letters ns

/-- The canonical spelling of a location name follows from its kind and its ordinals. -/
theorem normalize_eq_render {s : String} {kind : Kind} {ns : List UInt32}
    (hkind : kind? s = some kind) (hordinals : ordinals s = .ok ns) :
    normalize s = render (canonicalSegments kind ns) := by
  obtain ⟨segments, hparse⟩ := kind?_eq_some_iff.mp hkind
  have hdenotes := (parse?_eq_some_iff.mp hparse).2
  rw [normalize_of_parse? hparse]
  by_cases hroot : kind = .system
  · subst hroot
    rw [segments_of_kindOfSegments?_system hdenotes]
    rfl
  · rw [ordinals_of_parse? hparse hroot, ordinalsOf_eq_ok] at hordinals
    have hsegments : canonicalSegments kind ns = List.zipWith .ofOrdinal kind.letters ns := by
      cases kind <;> first | rfl | exact absurd rfl hroot
    rw [hsegments, ← letters_of_kindOfSegments? hdenotes, zipWith_of_ordinals hordinals]

/-- The digits of each ordinal of a text of segments, as written. -/
def ordinalDigits (s : String) : List (List Char) :=
  ((segments? s).getD []).map Segment.digits

/-- Each ordinal of the text fits in 32 bits, in whatever script it is written. -/
def OrdinalsFit (s : String) : Prop :=
  ∀ digits ∈ ordinalDigits s, Text.decimalValue digits < UInt32.size

/-- Each ordinal of the text is written in ASCII digits. -/
def OrdinalsAscii (s : String) : Prop :=
  ∀ digits ∈ ordinalDigits s, digits.all Char.isDigit = true

/-- Some digits are those of an ordinal exactly if they are ASCII digits of a number of 32
bits. -/
theorem exists_ordinal? {segment : Segment} (hsome : segment.digits ≠ []) :
    (∃ n, segment.ordinal? = some n) ↔
      Text.decimalValue segment.digits < UInt32.size ∧
        segment.digits.all Char.isDigit = true := by
  simp only [ordinal?_eq_some_iff]
  constructor
  · rintro ⟨n, _, hall, hvalue⟩
    exact ⟨hvalue ▸ n.toNat_lt, hall⟩
  · rintro ⟨hfits, hall⟩
    exact ⟨UInt32.ofNat (Text.decimalValue segment.digits), hsome, hall,
      (UInt32.toNat_ofNat_of_lt' hfits).symm⟩

/-- The ordinals of a location name can be read exactly if they fit in 32 bits and are
written in ASCII digits. -/
theorem forall_exists_ordinal? {s : String} {segments : List Segment}
    (hsegments : segments? s = some segments) :
    (∀ segment ∈ segments, ∃ n, segment.ordinal? = some n) ↔
      OrdinalsFit s ∧ OrdinalsAscii s := by
  have hwritten := wellWritten_of_segments? hsegments
  simp only [OrdinalsFit, OrdinalsAscii, ordinalDigits, hsegments, Option.getD_some,
    List.forall_mem_map]
  constructor
  · intro hread
    have hboth := fun segment hmem =>
      (exists_ordinal? (hwritten segment hmem).nonempty).mp (hread segment hmem)
    exact ⟨fun segment hmem => (hboth segment hmem).1, fun segment hmem => (hboth segment hmem).2⟩
  · rintro ⟨hfits, hascii⟩ segment hmem
    exact (exists_ordinal? (hwritten segment hmem).nonempty).mpr
      ⟨hfits segment hmem, hascii segment hmem⟩

/-! ### Names of components -/

/-- The ordinals of a location name of the expected kind are those of a location name that
denotes it. -/
theorem ordinalsOfKind_eq_ok {expected : Kind} {s : String} {ns : List UInt32} :
    ordinalsOfKind expected s = .ok ns ↔ kind? s = some expected ∧ ordinals s = .ok ns := by
  unfold ordinalsOfKind
  cases kind? s with
  | none => simp
  | some actual =>
    by_cases hactual : actual = expected
    · simp [hactual]
    · simp [hactual]

namespace Component

/-- The segments of the component's location name. -/
def segments : Component → List Segment
  | system => [⟨'s', ['0']⟩]
  | c => c.fields.map fun (letter, n) => .ofOrdinal letter n

/-- The letters of a component are those of its kind, the system's excepted, which has none. -/
theorem letters_fields {c : Component} (hroot : c.kind ≠ .system) :
    c.fields.map Prod.fst = c.kind.letters := by
  cases c <;> first | rfl | exact absurd rfl hroot

/-- A location name is its segments, that of the root included. -/
theorem toXname_eq_render (c : Component) : c.toXname = render c.segments := by
  cases c <;> rfl

/-- The segments have the letters of the component's kind. -/
theorem letters_segments (c : Component) :
    c.segments.map Segment.letter = c.kind.letters := by
  cases c <;> rfl

/-- Each ordinal of a component is written in ASCII digits, without padding. -/
theorem exists_ordinal_of_mem_segments {c : Component} {segment : Segment}
    (hmem : segment ∈ c.segments) :
    ∃ n : UInt32, segment.digits = Nat.toDigits 10 n.toNat := by
  cases c with
  | system =>
    obtain rfl := List.mem_singleton.mp hmem
    exact ⟨0, by decide⟩
  | _ =>
    obtain ⟨field, _, rfl⟩ := List.mem_map.mp hmem
    exact ⟨field.2, rfl⟩

/-- A component has an ordinal for each letter of its kind. -/
theorem length_letters {c : Component} (hroot : c.kind ≠ .system) :
    c.kind.letters.length = c.ordinals.length := by
  rw [← letters_fields hroot, ordinals, List.length_map, List.length_map]

/-- The segments of a component are well written. -/
theorem wellWritten_segments (c : Component) :
    ∀ segment ∈ c.segments, segment.WellWritten := by
  intro segment hmem
  have hletter := isLetter_of_letters c.letters_segments segment hmem
  obtain ⟨n, hdigits⟩ := exists_ordinal_of_mem_segments hmem
  refine ⟨not_isDecimalDigit_of_isLetter hletter, ?_, ?_⟩
  · rw [hdigits]
    exact Nat.toDigits_ne_nil
  · rw [hdigits]
    exact fun c hc => Text.isDecimalDigit_of_isDigit
      (Nat.isDigit_of_mem_toDigits (by decide) (by decide) hc)

/-- A location name is taken apart into the kind and the segments of its component. -/
theorem parse?_toXname (c : Component) : parse? c.toXname = some (c.kind, c.segments) := by
  rw [toXname_eq_render, parse?_eq_some_iff]
  refine ⟨segments?_render c.wellWritten_segments, ?_⟩
  cases c <;> rfl

/-- A location name denotes the kind of its component. -/
theorem kind?_toXname (c : Component) : kind? c.toXname = some c.kind := by
  rw [kind?, parse?_toXname]
  rfl

/-- A location name has the ordinals of its component. -/
theorem ordinals_toXname (c : Component) : Xname.ordinals c.toXname = .ok c.ordinals := by
  have hread : ordinalsOf c.toXname (c.fields.map fun (letter, n) => .ofOrdinal letter n) =
      .ok c.ordinals := by
    rw [ordinalsOf_eq_ok, ordinals, List.forall₂_map_left_iff, List.forall₂_map_right_iff,
      List.forall₂_same]
    exact fun (letter, n) _ => ordinal?_ofOrdinal letter n
  rw [Xname.ordinals, parse?_toXname]
  cases c <;> first | rfl | exact hread

/-- The component of a kind with given ordinals is the one that has them. -/
theorem ofOrdinals?_eq_some_iff {kind : Kind} {ns : List UInt32} {c : Component} :
    ofOrdinals? kind ns = some c ↔ c.kind = kind ∧ c.ordinals = ns := by
  constructor
  · intro h
    unfold ofOrdinals? at h
    split at h <;> cases h <;> exact ⟨rfl, rfl⟩
  · rintro ⟨rfl, rfl⟩
    exact ofOrdinals?_ordinals c

/-- A component is read from a text exactly if the text denotes its kind and has its
ordinals. -/
theorem parse_eq_ok {expected : Kind} {s : String} {c : Component} :
    parse expected s = .ok c ↔
      c.kind = expected ∧ kind? s = some expected ∧ Xname.ordinals s = .ok c.ordinals := by
  unfold parse
  cases hread : ordinalsOfKind expected s with
  | error fault =>
    simp only [reduceCtorEq, false_iff]
    rintro ⟨_, hs⟩
    exact absurd (hread.symm.trans (ordinalsOfKind_eq_ok.mpr hs)) (by simp)
  | ok ns =>
    obtain ⟨hkind, hordinals⟩ := ordinalsOfKind_eq_ok.mp hread
    simp only [hkind, hordinals, Except.ok.injEq, eq_comm (a := ns), true_and,
      ← ofOrdinals?_eq_some_iff]
    cases ofOrdinals? expected ns <;> simp

/-- The component is read from its location name. -/
theorem parse_toXname (c : Component) : parse c.kind c.toXname = .ok c :=
  parse_eq_ok.mpr ⟨rfl, kind?_toXname c, ordinals_toXname c⟩

/-- Two components never share their location name. -/
theorem toXname_injective {a b : Component} (h : a.toXname = b.toXname) : a = b := by
  have hkind : a.kind = b.kind := by
    rw [← Option.some.injEq, ← kind?_toXname, h, kind?_toXname]
  have hread := parse_toXname a
  rw [h, hkind, parse_toXname] at hread
  exact (Except.ok.inj hread).symm

/-- There is a component of each kind and each number of ordinals that a component has. -/
theorem exists_of_length {other : Component} {ns : List UInt32}
    (hlength : ns.length = other.ordinals.length) :
    ∃ c : Component, c.kind = other.kind ∧ c.ordinals = ns := by
  simp only [← ofOrdinals?_eq_some_iff]
  -- No component has more than five ordinals.
  obtain _ | ⟨_, _ | ⟨_, _ | ⟨_, _ | ⟨_, _ | ⟨_, _ | ⟨_, _⟩⟩⟩⟩⟩⟩ := ns <;> cases other <;>
    first | exact ⟨_, rfl⟩ | cases hlength

/-- Leaving out the last segment of a location name gives that of the enclosing
component. -/
theorem parent_toXname {c p : Component} (hparent : c.parent? = some p) :
    parent c.toXname = .ok p.toXname := by
  rw [parent, parse?_toXname]
  cases c <;> cases hparent <;> rfl

/-- Every component but the system lies in one. -/
theorem exists_parent? {c : Component} (hroot : c ≠ .system) : ∃ p, c.parent? = some p := by
  cases c with
  | system => exact absurd rfl hroot
  | _ => exact ⟨_, rfl⟩

/-- What is placed in a component lies there: it has the ordinals of the component and its place. -/
theorem parent?_of_mem_childConstructors {c : Component} :
    ∀ make ∈ c.childConstructors, ∀ place,
      (make place).parent? = some c ∧ (make place).ordinals = c.ordinals ++ [place] := by
  cases c <;> simp [childConstructors, parent?, ordinals, fields]

/-- What lies in a component has been placed there. -/
theorem exists_childConstructor {c child : Component} (hparent : child.parent? = some c) :
    ∃ make ∈ c.childConstructors, ∃ place, make place = child := by
  cases child <;> cases hparent <;> simp [childConstructors]

/-- A place in a component has a child of every kind of components that lie there. -/
theorem exists_child? {c other : Component} (hkind : other.kind.parent? = some c.kind)
    (place : UInt32) :
    ∃ child, c.child? other.kind place = some child ∧ child.kind = other.kind ∧
      child.ordinals = c.ordinals ++ [place] ∧ child.parent? = some c := by
  -- The kind of the other component says of which kind this one is.
  cases other <;> cases c <;> first | exact ⟨_, rfl, rfl, rfl, rfl⟩ | cases hkind

/-- The segments of a component are those of its kind and its ordinals. -/
theorem segments_eq_canonicalSegments (c : Component) :
    c.segments = canonicalSegments c.kind c.ordinals := by
  cases c <;> rfl

/-- A component that is read from a text is written in the text's canonical spelling. -/
theorem toXname_of_parse {expected : Kind} {s : String} {c : Component}
    (hok : parse expected s = .ok c) : c.toXname = normalize s := by
  obtain ⟨rfl, hkind, hordinals⟩ := parse_eq_ok.mp hok
  rw [normalize_eq_render hkind hordinals, toXname_eq_render, segments_eq_canonicalSegments]

/-- A text that denotes a kind of components is read as a component exactly if all its
ordinals can be read. -/
theorem exists_parse {other : Component} {s : String} {segments : List Segment}
    (hparse : parse? s = some (other.kind, segments)) :
    (∃ c, parse other.kind s = .ok c) ↔
      ∀ segment ∈ segments, ∃ n, segment.ordinal? = some n := by
  have hdenotes := (parse?_eq_some_iff.mp hparse).2
  have hkind : kind? s = some other.kind := kind?_eq_some_iff.mpr ⟨segments, hparse⟩
  by_cases hroot : other.kind = .system
  · rw [hroot] at hdenotes hkind hparse ⊢
    refine iff_of_true ⟨.system, parse_eq_ok.mpr ⟨rfl, hkind, ?_⟩⟩ ?_
    · rw [Xname.ordinals, hparse]
      rfl
    · rw [segments_of_kindOfSegments?_system hdenotes]
      intro segment hsegment
      obtain rfl := List.mem_singleton.mp hsegment
      exact ⟨0, by decide⟩
  · rw [← exists_ordinalsOf (s := s), ← ordinals_of_parse? hparse hroot]
    constructor
    · rintro ⟨c, hok⟩
      exact ⟨c.ordinals, (parse_eq_ok.mp hok).2.2⟩
    · rintro ⟨ns, hordinals⟩
      have hlength : ns.length = other.ordinals.length := by
        have hread := hordinals
        rw [ordinals_of_parse? hparse hroot, ordinalsOf_eq_ok] at hread
        rw [← hread.length_eq, ← length_letters hroot,
          ← letters_of_kindOfSegments? hdenotes, List.length_map]
      obtain ⟨c, hc, rfl⟩ := exists_of_length hlength
      exact ⟨c, parse_eq_ok.mpr ⟨hc, hkind, hordinals⟩⟩

/-- The location name of a component says what the component says of itself, and the
components around it are found from the name as they are from the component. -/
structure NamedFaithfully (c : Component) : Prop where
  /-- The name denotes the kind. -/
  kind : kind? c.toXname = some c.kind
  /-- The name has the ordinals, outermost first. -/
  ordinals : Xname.ordinals c.toXname = .ok c.ordinals
  /-- The component is read back. -/
  parse : parse c.kind c.toXname = .ok c
  /-- The name without its last segment is that of the enclosing component. -/
  parent : c ≠ system → ∃ p, c.parent? = some p ∧ Xname.parent c.toXname = .ok p.toXname
  /-- What can be placed in this component lies there, at the place. -/
  child : ∀ make ∈ c.childConstructors, ∀ place,
    (make place).parent? = some c ∧ (make place).ordinals = c.ordinals ++ [place]
  /-- Nothing else lies there. -/
  placed : ∀ child, child.parent? = some c → ∃ make ∈ c.childConstructors, ∃ place,
    make place = child
  /-- Every kind of components that lie in this one has a child at every place. -/
  childOfKind : ∀ (other : Component) (place : UInt32), other.kind.parent? = some c.kind →
    ∃ child, c.child? other.kind place = some child ∧ child.kind = other.kind ∧
      child.ordinals = c.ordinals ++ [place] ∧ child.parent? = some c

/-- Every component is named faithfully. -/
theorem namedFaithfully (c : Component) : c.NamedFaithfully where
  kind := kind?_toXname c
  ordinals := ordinals_toXname c
  parse := parse_toXname c
  parent := by
    intro hroot
    obtain ⟨p, hparent⟩ := exists_parent? hroot
    exact ⟨p, hparent, parent_toXname hparent⟩
  child := parent?_of_mem_childConstructors
  placed := fun _ => exists_childConstructor
  childOfKind := fun _ place hkind => exists_child? hkind place

/-- A text is read as a component of a kind exactly if it denotes the kind and its ordinals
fit in 32 bits and are written in ASCII digits. -/
theorem exists_parse_iff {other : Component} {s : String} :
    (∃ c, parse other.kind s = .ok c) ↔
      kind? s = some other.kind ∧ OrdinalsFit s ∧ OrdinalsAscii s := by
  constructor
  · rintro ⟨c, hok⟩
    have hkind := (parse_eq_ok.mp hok).2.1
    obtain ⟨segments, hparse⟩ := kind?_eq_some_iff.mp hkind
    exact ⟨hkind, (forall_exists_ordinal? (parse?_eq_some_iff.mp hparse).1).mp
      ((exists_parse hparse).mp ⟨c, hok⟩)⟩
  · rintro ⟨hkind, hread⟩
    obtain ⟨segments, hparse⟩ := kind?_eq_some_iff.mp hkind
    exact (exists_parse hparse).mpr
      ((forall_exists_ordinal? (parse?_eq_some_iff.mp hparse).1).mpr hread)

end Component

/-- Components and their location names agree. Every component is named faithfully. A text
can be read as a component of some kind exactly if it denotes the kind and its ordinals fit
in 32 bits and are written in ASCII digits, and the component is then written in the text's
canonical spelling. -/
theorem components_agree_with_names (c other : Component) (s : String) :
    c.NamedFaithfully ∧
      (∀ found, Component.parse other.kind s = .ok found → found.toXname = normalize s) ∧
      ((∃ found, Component.parse other.kind s = .ok found) ↔
        kind? s = some other.kind ∧ OrdinalsFit s ∧ OrdinalsAscii s) :=
  ⟨c.namedFaithfully, fun _ => Component.toXname_of_parse, Component.exists_parse_iff⟩

/-- Without the condition on the digits, the text would have to be readable: an Arabic-Indic
three denotes a cabinet and fits in 32 bits, but is no ordinal. -/
theorem not_forall_exists_parse :
    ¬∀ (other : Component) (s : String),
      (∃ c, Component.parse other.kind s = .ok c) ↔
        kind? s = some other.kind ∧ OrdinalsFit s := by
  intro h
  have hfits : kind? "x٣" = some (Component.cabinet 0).kind ∧ OrdinalsFit "x٣" := by
    refine ⟨by decide +kernel, ?_⟩
    unfold OrdinalsFit
    decide +kernel
  obtain ⟨c, hok⟩ := (h (.cabinet 0) "x٣").mpr hfits
  have hfault : (Component.parse (Component.cabinet 0).kind "x٣").isOk = false := by
    decide +kernel
  rw [hok] at hfault
  cases hfault

end SitePlan.Xname
