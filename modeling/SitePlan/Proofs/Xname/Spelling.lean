import SitePlan.Proofs.Text.Digits
import SitePlan.Xname.Canonical
import SitePlan.Xname.Grammar

/-!
# Location names as they are written

Segments of a letter and decimal digits can be read back from the text that they make, so
a location name is its segments and nothing else. Its canonical spelling is that of the same
segments with the padding of each ordinal taken away.
-/

namespace SitePlan.Xname

open Text

/-- A segment as location names have them: a letter that is no digit, and some digits. -/
structure Segment.WellWritten (segment : Segment) : Prop where
  /-- The letter ends the digits of the segment before. -/
  letter : isDecimalDigit segment.letter = false
  /-- No ordinal is left out. -/
  nonempty : segment.digits ≠ []
  /-- The digits may be of any script. -/
  decimal : ∀ c ∈ segment.digits, isDecimalDigit c = true

/-- The segment with its ordinal unpadded. -/
def Segment.unpadded (segment : Segment) : Segment :=
  ⟨segment.letter, unpad segment.digits⟩

/-! ### Reading back -/

/-- Digits in front of a text come before the digits that it begins with. -/
theorem scan_append {ds digits cs : List Char} {segments : List Segment}
    (hds : ∀ c ∈ ds, isDecimalDigit c = true) (hcs : scan cs = some (digits, segments)) :
    scan (ds ++ cs) = some (ds ++ digits, segments) := by
  induction ds with
  | nil => exact hcs
  | cons d rest ih =>
    have hrest := ih fun c hc => hds c (List.mem_cons_of_mem d hc)
    simp [scan, hrest, hds d List.mem_cons_self]

/-- Well-written segments are read back. -/
theorem scan_render {segments : List Segment}
    (hwritten : ∀ segment ∈ segments, segment.WellWritten) :
    scan (segments.flatMap Segment.render) = some ([], segments) := by
  induction segments with
  | nil => rfl
  | cons segment rest ih =>
    obtain ⟨hletter, hsome, hdecimal⟩ := hwritten segment List.mem_cons_self
    have hrest := scan_append hdecimal
      (ih fun other hother => hwritten other (List.mem_cons_of_mem segment hother))
    simp [Segment.render, scan, hrest, hletter, hsome]

/-- What is read are digits and well-written segments. -/
theorem wellWritten_of_scan {cs digits : List Char} {segments : List Segment}
    (hscan : scan cs = some (digits, segments)) :
    (∀ c ∈ digits, isDecimalDigit c = true) ∧ ∀ segment ∈ segments, segment.WellWritten := by
  induction cs generalizing digits segments with
  | nil =>
    cases hscan
    simp
  | cons c rest ih =>
    simp only [scan] at hscan
    split at hscan
    · cases hscan
    · next ds segs hrest =>
      obtain ⟨hds, hsegs⟩ := ih hrest
      split at hscan
      · next hdigit =>
        cases hscan
        exact ⟨List.forall_mem_cons.mpr ⟨hdigit, hds⟩, hsegs⟩
      · next hletter =>
        split at hscan
        · cases hscan
        · next hsome =>
          cases hscan
          have hnew : Segment.WellWritten ⟨c, ds⟩ :=
            ⟨by simpa using hletter, by simpa using hsome, hds⟩
          exact ⟨by simp, List.forall_mem_cons.mpr ⟨hnew, hsegs⟩⟩

/-- The text of well-written segments consists of these. -/
theorem segments?_render {segments : List Segment}
    (hwritten : ∀ segment ∈ segments, segment.WellWritten) :
    segments? (render segments) = some segments := by
  simp [segments?, render, scan_render hwritten]

/-- The segments of a text are well written. -/
theorem wellWritten_of_segments? {s : String} {segments : List Segment}
    (h : segments? s = some segments) : ∀ segment ∈ segments, segment.WellWritten := by
  unfold segments? at h
  split at h
  · next hscan =>
    cases h
    exact (wellWritten_of_scan hscan).2
  · cases h

/-! ### Location names -/

/-- A location name is its segments, and their letters decide its kind. -/
theorem parse?_eq_some_iff {s : String} {kind : Kind} {segments : List Segment} :
    parse? s = some (kind, segments) ↔
      segments? s = some segments ∧ kindOfSegments? segments = some kind := by
  unfold parse?
  cases segments? s with
  | none => simp
  | some found =>
    cases hkind : kindOfSegments? found with
    | none =>
      simp only [Option.bind_eq_bind, Option.bind_some, hkind, Option.bind_none, reduceCtorEq,
        Option.some.injEq, false_iff, not_and]
      rintro rfl
      simp [hkind]
    | some k =>
      simp only [Option.bind_eq_bind, Option.bind_some, hkind, Option.pure_def,
        Option.some.injEq, Prod.mk.injEq]
      constructor
      · rintro ⟨rfl, rfl⟩
        exact ⟨rfl, hkind⟩
      · rintro ⟨rfl, hk⟩
        exact ⟨Option.some.inj (hkind.symm.trans hk), rfl⟩

/-- A text denotes a kind exactly if its segments do. -/
theorem kind?_eq_some_iff {s : String} {kind : Kind} :
    kind? s = some kind ↔ ∃ segments, parse? s = some (kind, segments) := by
  simp [kind?]

/-- The letters of segments are those of the kind that they denote. -/
theorem letters_of_kindOfSegments? {segments : List Segment} {kind : Kind}
    (h : kindOfSegments? segments = some kind) :
    segments.map Segment.letter = kind.letters := by
  unfold kindOfSegments? at h
  split at h
  · next hsystem =>
    split at h
    · cases h
      exact (Kind.letters_of_ofLetters? hsystem).symm
    · cases h
  · exact (Kind.letters_of_ofLetters? h).symm

/-- Segments with the letters of a kind other than the root denote it. -/
theorem kindOfSegments?_eq_some {segments : List Segment} {kind : Kind}
    (hletters : segments.map Segment.letter = kind.letters) (hroot : kind ≠ .system) :
    kindOfSegments? segments = some kind := by
  unfold kindOfSegments?
  rw [hletters, Kind.ofLetters?_letters]
  split
  · next hsystem => exact absurd (Option.some.inj hsystem) hroot
  · rfl

/-- The root is written in one way only. -/
theorem segments_of_kindOfSegments?_system {segments : List Segment}
    (h : kindOfSegments? segments = some .system) : segments = [⟨'s', ['0']⟩] := by
  unfold kindOfSegments? at h
  split at h
  · split at h
    · assumption
    · cases h
  · next hother => exact absurd h hother

/-- Location names have small letters. -/
theorem isLetter_of_letters {segments : List Segment} {kind : Kind}
    (hletters : segments.map Segment.letter = kind.letters) :
    ∀ segment ∈ segments, isLetter segment.letter = true := by
  have hall : kind.letters.all isLetter = true := by
    cases kind <;> rfl
  rw [List.all_eq_true, ← hletters] at hall
  intro segment hsegment
  exact hall segment.letter (List.mem_map_of_mem hsegment)

/-! ### Canonical spelling -/

/-- The code points of the small letters. -/
theorem isLetter_iff {c : Char} : isLetter c = true ↔ 97 ≤ c.toNat ∧ c.toNat ≤ 122 := by
  simp only [isLetter, Bool.and_eq_true, decide_eq_true_eq, Char.le_def,
    UInt32.le_iff_toNat_le]
  exact Iff.rfl

/-- No small letter is white space. -/
theorem not_isBlank_of_isLetter {c : Char} (hc : isLetter c = true) : isBlank c = false := by
  rw [isLetter_iff] at hc
  simp only [isBlank, Bool.or_eq_false_iff, Bool.and_eq_false_iff, decide_eq_false_iff_not,
    beq_eq_false_iff_ne]
  omega

/-- A small letter is in lower case. -/
theorem isLower_of_isLetter {c : Char} (hc : isLetter c = true) : IsLower c := by
  rw [isLetter_iff] at hc
  have hrun : ∀ i < 26, (Char.ofNat (97 + i)).toLower = Char.ofNat (97 + i) := by decide
  have hlower := hrun (c.toNat - 97) (by omega)
  rw [Nat.add_sub_cancel' hc.1, Char.ofNat_toNat] at hlower
  exact fun _ _ => by rw [lowerBetween, if_pos (by omega), hlower]

/-- No decimal digit is a small letter. -/
theorem not_isLetter_of_isDecimalDigit {c : Char} (hc : isDecimalDigit c = true) :
    isLetter c = false :=
  forall_decimalDigit (P := fun c => isLetter c = false) (by decide +kernel) hc

/-- No small letter is a decimal digit. -/
theorem not_isDecimalDigit_of_isLetter {c : Char} (hc : isLetter c = true) :
    isDecimalDigit c = false := by
  rw [Bool.eq_false_iff]
  intro hdigit
  rw [not_isLetter_of_isDecimalDigit hdigit] at hc
  cases hc

/-- Digits after a letter lose their padding, if no further digit follows. -/
theorem stripPadding_append {ds cs : List Char} (hsome : ds ≠ [])
    (hds : ∀ c ∈ ds, isDecimalDigit c = true) (hcs : cs.head?.any isDecimalDigit = false) :
    stripPadding true (ds ++ cs) = unpad ds ++ stripPadding false cs := by
  -- Once a digit is kept, so is each that follows.
  have hkept : ∀ more : List Char, (∀ c ∈ more, isDecimalDigit c = true) →
      stripPadding false (more ++ cs) = more ++ stripPadding false cs := by
    intro more hmore
    induction more with
    | nil => rfl
    | cons d rest ih =>
      rw [List.forall_mem_cons] at hmore
      simp [stripPadding, not_isLetter_of_isDecimalDigit hmore.1, ih hmore.2]
  induction ds with
  | nil => exact absurd rfl hsome
  | cons d rest ih =>
    rw [List.forall_mem_cons] at hds
    have hhead : (rest ++ cs).head?.any isDecimalDigit = rest.head?.any isDecimalDigit := by
      cases rest with
      | nil => simpa using hcs
      | cons e more => rfl
    by_cases hpad : d = '0' ∧ rest.head?.any isDecimalDigit = true
    · have hrest : rest ≠ [] := by
        rintro rfl
        simp at hpad
      have hkeep : stripPadding true (d :: rest ++ cs) = stripPadding true (rest ++ cs) := by
        rw [List.cons_append, stripPadding, hhead, hpad.1, hpad.2]
        rfl
      rw [hkeep, ih hrest hds.2, unpad, if_pos hpad]
    · have hdrop : ¬(true && d == '0' && (rest ++ cs).head?.any isDecimalDigit) = true := by
        rw [hhead]
        simpa using hpad
      rw [List.cons_append, stripPadding, if_neg hdrop, unpad, if_neg hpad,
        not_isLetter_of_isDecimalDigit hds.1, hkept rest hds.2, List.cons_append]

/-- Well-written segments with small letters lose the padding of their ordinals. -/
theorem stripPadding_render {segments : List Segment}
    (hwritten : ∀ segment ∈ segments, segment.WellWritten)
    (hletters : ∀ segment ∈ segments, isLetter segment.letter = true) :
    stripPadding false (segments.flatMap Segment.render) =
      (segments.map Segment.unpadded).flatMap Segment.render := by
  induction segments with
  | nil => rfl
  | cons segment rest ih =>
    rw [List.forall_mem_cons] at hwritten hletters
    have hnext : (rest.flatMap Segment.render).head?.any isDecimalDigit = false := by
      cases rest with
      | nil => rfl
      | cons other more => simpa [Segment.render] using (hwritten.2 other (by simp)).letter
    simp only [List.flatMap_cons, List.map_cons, Segment.render, Segment.unpadded,
      List.cons_append, stripPadding, Bool.false_and, Bool.false_eq_true, if_false,
      hletters.1]
    rw [stripPadding_append hwritten.1.nonempty hwritten.1.decimal hnext,
      ih hwritten.2 hletters.2]

/-- Well-written segments with small letters are spelled canonically but for padding. -/
theorem canonical_render {segments : List Segment}
    (hwritten : ∀ segment ∈ segments, segment.WellWritten)
    (hletters : ∀ segment ∈ segments, isLetter segment.letter = true) :
    canonical (segments.flatMap Segment.render) =
      (segments.map Segment.unpadded).flatMap Segment.render := by
  have hchars : ∀ c ∈ segments.flatMap Segment.render,
      isLetter c = true ∨ isDecimalDigit c = true := by
    intro c hc
    obtain ⟨segment, hsegment, hc⟩ := List.mem_flatMap.mp hc
    rcases List.mem_cons.mp hc with rfl | hdigit
    · exact .inl (hletters segment hsegment)
    · exact .inr ((hwritten segment hsegment).decimal c hdigit)
  have htrim : trim (segments.flatMap Segment.render) = segments.flatMap Segment.render :=
    (trimmed_of_forall fun c hc => (hchars c hc).elim not_isBlank_of_isLetter
      not_isBlank_of_isDecimalDigit).trim_eq_self
  have hlower : lower (segments.flatMap Segment.render) = segments.flatMap Segment.render :=
    lower_eq_self fun c hc => (hchars c hc).elim isLower_of_isLetter
      isLower_of_isDecimalDigit
  rw [canonical, htrim, hlower, stripPadding_render hwritten hletters]

/-- The canonical spelling of a location name is that of its unpadded segments. -/
theorem normalize_of_parse? {s : String} {kind : Kind} {segments : List Segment}
    (h : parse? s = some (kind, segments)) :
    normalize s = render (segments.map Segment.unpadded) := by
  obtain ⟨hsegments, hkind⟩ := parse?_eq_some_iff.mp h
  have hletters := isLetter_of_letters (letters_of_kindOfSegments? hkind)
  rw [normalize, ← render_of_segments? hsegments, render, String.toList_ofList,
    canonical_render (wellWritten_of_segments? hsegments) hletters, render]

/-- The canonical spelling of a location name has the same kind and the unpadded segments. -/
theorem parse?_normalize {s : String} {kind : Kind} {segments : List Segment}
    (h : parse? s = some (kind, segments)) :
    parse? (normalize s) = some (kind, segments.map Segment.unpadded) := by
  obtain ⟨hsegments, hkind⟩ := parse?_eq_some_iff.mp h
  have hwritten : ∀ segment ∈ segments.map Segment.unpadded, segment.WellWritten := by
    intro unpadded hmem
    obtain ⟨segment, hsegment, rfl⟩ := List.mem_map.mp hmem
    obtain ⟨hletter, hsome, hdecimal⟩ := wellWritten_of_segments? hsegments segment hsegment
    exact ⟨hletter, unpad_ne_nil hsome,
      fun c hc => hdecimal c ((unpad_suffix segment.digits).mem hc)⟩
  rw [normalize_of_parse? h, parse?_eq_some_iff]
  refine ⟨segments?_render hwritten, ?_⟩
  by_cases hroot : kind = .system
  · subst hroot
    rw [segments_of_kindOfSegments?_system hkind]
    rfl
  · have hletters : (segments.map Segment.unpadded).map Segment.letter = kind.letters := by
      rw [← letters_of_kindOfSegments? hkind, List.map_map]
      rfl
    exact kindOfSegments?_eq_some hletters hroot

/-- The canonical spelling of a location name denotes the same kind. -/
theorem kind?_normalize {s : String} {kind : Kind} (h : kind? s = some kind) :
    kind? (normalize s) = some kind := by
  obtain ⟨segments, hparse⟩ := kind?_eq_some_iff.mp h
  exact kind?_eq_some_iff.mpr ⟨_, parse?_normalize hparse⟩

end SitePlan.Xname
