import SitePlan.Proofs.Xname.Components

/-!
# The canonical spelling as a canonical form

Spelling a text canonically once is enough. A location name keeps its kind and its ordinals,
and two location names whose ordinals can be read are spelled alike exactly if they denote
the same component.
-/

namespace SitePlan.Xname

open Text

/-! ### Spelling twice -/

/-- Dropping padding brings in no new characters. -/
theorem stripPadding_sublist (afterLetter : Bool) (cs : List Char) :
    (stripPadding afterLetter cs).Sublist cs := by
  induction cs generalizing afterLetter with
  | nil => exact .refl _
  | cons c rest ih =>
    unfold stripPadding
    split
    · exact (ih true).cons c
    · exact (ih _).cons_cons c

/-- Dropping padding drops zeros only. -/
theorem eq_zero_or_mem_stripPadding {c : Char} {cs : List Char} (hc : c ∈ cs)
    (afterLetter : Bool) : c = '0' ∨ c ∈ stripPadding afterLetter cs := by
  induction cs generalizing afterLetter with
  | nil => cases hc
  | cons d rest ih =>
    unfold stripPadding
    split
    · next hpad =>
      rcases List.mem_cons.mp hc with rfl | hc
      · simp only [Bool.and_eq_true, beq_iff_eq] at hpad
        exact .inl hpad.1.2
      · exact ih hc true
    · rcases List.mem_cons.mp hc with rfl | hc
      · exact .inr List.mem_cons_self
      · exact (ih hc _).imp_right (List.mem_cons_of_mem d)

/-- What follows no letter is no padding, so the first character stays. -/
theorem head?_stripPadding (cs : List Char) : (stripPadding false cs).head? = cs.head? := by
  cases cs with
  | nil => rfl
  | cons c rest => simp [stripPadding]

/-- Padding stands before another digit, so the last character stays. -/
theorem getLast?_stripPadding (afterLetter : Bool) (cs : List Char) :
    (stripPadding afterLetter cs).getLast? = cs.getLast? := by
  induction cs generalizing afterLetter with
  | nil => rfl
  | cons c rest ih =>
    unfold stripPadding
    split
    · next hpad =>
      have hrest : rest ≠ [] := by
        rintro rfl
        simp at hpad
      obtain ⟨d, more, rfl⟩ := List.exists_cons_of_ne_nil hrest
      rw [ih, List.getLast?_cons_cons]
    · rw [List.getLast?_cons, List.getLast?_cons, ih]

/-- A text without white space around it has none when padding is dropped. -/
theorem trimmed_stripPadding {cs : List Char} (h : Trimmed cs) :
    Trimmed (stripPadding false cs) where
  first := by
    rw [head?_stripPadding]
    exact h.first
  last := by
    rw [getLast?_stripPadding]
    exact h.last

/-- No padding is left where it was dropped. -/
theorem stripPadding_stripPadding (afterLetter : Bool) (cs : List Char) :
    stripPadding afterLetter (stripPadding afterLetter cs) = stripPadding afterLetter cs := by
  induction cs generalizing afterLetter with
  | nil => rfl
  | cons c rest ih =>
    by_cases hpad : (afterLetter && c == '0' && rest.head?.any isDecimalDigit) = true
    · -- Padding follows a letter, and so does what comes after it.
      have hletter : afterLetter = true := by
        simp only [Bool.and_eq_true] at hpad
        exact hpad.1.1
      rw [stripPadding, if_pos hpad, hletter, ih]
    · -- A zero that is kept is no letter, so the character after it is the same as before.
      have hkept : ¬(afterLetter && c == '0' &&
          (stripPadding (isLetter c) rest).head?.any isDecimalDigit) = true := by
        by_cases hzero : c = '0'
        · subst hzero
          rwa [show isLetter '0' = false from rfl, head?_stripPadding]
        · simp [hzero]
      rw [stripPadding, if_neg hpad, stripPadding, if_neg hkept, ih]

/-- The canonical spelling is spelled canonically. -/
theorem canonical_canonical (cs : List Char) : canonical (canonical cs) = canonical cs := by
  have htrimmed : Trimmed (canonical cs) := trimmed_stripPadding (trimmed_trim cs).lower
  have hlower : lower (canonical cs) = canonical cs :=
    lower_eq_self fun _ hc => isLower_of_mem_lower ((stripPadding_sublist _ _).mem hc)
  calc canonical (canonical cs)
      = stripPadding false (lower (canonical cs)) := by rw [canonical, htrimmed.trim_eq_self]
    _ = stripPadding false (canonical cs) := by rw [hlower]
    _ = canonical cs := stripPadding_stripPadding false _

/-- Spelling canonically once is enough. -/
theorem normalize_normalize (s : String) : normalize (normalize s) = normalize s := by
  rw [normalize, normalize, String.toList_ofList, canonical_canonical]

/-- A text without white space around it may be put in lower case first. -/
theorem normalize_lowerText {s : String} (h : Trimmed s.toList) :
    normalize (lowerText s) = normalize s := by
  rw [normalize, normalize, lowerText, String.toList_ofList, canonical, canonical,
    h.lower.trim_eq_self, lower_lower, h.trim_eq_self]

/-! ### Kinds and ordinals -/

/-- A text whose ordinals are read is a location name. -/
theorem exists_parse?_of_ordinals {s : String} {ns : List UInt32} (h : ordinals s = .ok ns) :
    ∃ kind segments, parse? s = some (kind, segments) := by
  unfold ordinals at h
  split at h
  · cases h
  · next segments hparse => exact ⟨.system, segments, hparse⟩
  · next kind segments _ hparse => exact ⟨kind, segments, hparse⟩

/-- The canonical spelling of a location name has its ordinals. -/
theorem ordinals_normalize {s : String} {ns : List UInt32} (h : ordinals s = .ok ns) :
    ordinals (normalize s) = .ok ns := by
  obtain ⟨kind, segments, hparse⟩ := exists_parse?_of_ordinals h
  have hnormal := parse?_normalize hparse
  by_cases hroot : kind = .system
  · subst hroot
    simp only [ordinals, hparse] at h
    simpa only [ordinals, hnormal] using h
  · rw [ordinals_of_parse? hparse hroot, ordinalsOf_eq_ok] at h
    rw [ordinals_of_parse? hnormal hroot, ordinalsOf_eq_ok, List.forall₂_map_left_iff]
    refine h.imp fun segment n hn => ?_
    rw [unpadded_of_ordinal? hn]
    exact ordinal?_ofOrdinal segment.letter n

/-- Location names whose ordinals can be read are spelled alike exactly if they are of one
kind and have the same ordinals. -/
theorem normalize_eq_normalize_iff {s t : String} {ns ms : List UInt32}
    (hs : ordinals s = .ok ns) (ht : ordinals t = .ok ms) :
    normalize s = normalize t ↔ kind? s = kind? t ∧ ns = ms := by
  obtain ⟨sKind, _, hsParse⟩ := exists_parse?_of_ordinals hs
  obtain ⟨tKind, _, htParse⟩ := exists_parse?_of_ordinals ht
  have hsKind : kind? s = some sKind := kind?_eq_some_iff.mpr ⟨_, hsParse⟩
  have htKind : kind? t = some tKind := kind?_eq_some_iff.mpr ⟨_, htParse⟩
  constructor
  · intro hsame
    have hkind : some sKind = some tKind := by
      rw [← kind?_normalize hsKind, hsame, kind?_normalize htKind]
    have hordinals : (.ok ns : Except Error (List UInt32)) = .ok ms := by
      rw [← ordinals_normalize hs, hsame, ordinals_normalize ht]
    exact ⟨by rw [hsKind, htKind, hkind], Except.ok.inj hordinals⟩
  · rintro ⟨hkind, rfl⟩
    rw [normalize_eq_render hsKind hs, normalize_eq_render (hkind ▸ hsKind) ht]

/-- The canonical spelling is a canonical form. It is its own canonical spelling; that of a
location name denotes the same kind and has the same ordinals, if these can be read; and it
is common to two location names with readable ordinals exactly if both are of one kind and
have the same ordinals. -/
theorem normalize_canonicalForm (s t : String) :
    normalize (normalize s) = normalize s ∧
      (∀ kind, kind? s = some kind → kind? (normalize s) = some kind) ∧
      (∀ ns, ordinals s = .ok ns → ordinals (normalize s) = .ok ns) ∧
      ∀ ns ms, ordinals s = .ok ns → ordinals t = .ok ms →
        (normalize s = normalize t ↔ kind? s = kind? t ∧ ns = ms) :=
  ⟨normalize_normalize s, fun _ => kind?_normalize, fun _ => ordinals_normalize,
    fun _ _ => normalize_eq_normalize_iff⟩

/-- Two paddings of one node are spelled alike, as the node that they denote. -/
theorem normalize_canonicalForm_paddedNode :
    kind? (normalize "x3000c0s017b0n00") = some .node ∧
      ordinals (normalize "x3000c0s017b0n00") = .ok [3000, 0, 17, 0, 0] ∧
      normalize "x3000c0s017b0n00" = normalize "x03000c0s17b0n0" := by
  have hs : ordinals "x3000c0s017b0n00" = .ok [3000, 0, 17, 0, 0] := by decide +kernel
  have ht : ordinals "x03000c0s17b0n0" = .ok [3000, 0, 17, 0, 0] := by decide +kernel
  obtain ⟨_, hkind, hordinals, hsame⟩ :=
    normalize_canonicalForm "x3000c0s017b0n00" "x03000c0s17b0n0"
  exact ⟨hkind _ (by decide +kernel), hordinals _ hs,
    (hsame _ _ hs ht).mpr ⟨by decide +kernel, rfl⟩⟩

end SitePlan.Xname
