import Mathlib.Tactic.ByContra
import SitePlan.Proofs.Yaml.Places

/-!
# Plain scalars

A text without quotes is read up to its end: a colon with white space after it, or the first line
that does not stand further in than the collection around it. In the second case the white space
before that line has been read too.
-/

namespace SitePlan.Yaml

/-! ### Beginnings -/

/-- What does not begin like the mark of a document is none, whatever other character follows
it. -/
theorem isDocumentMark_append {cs tail : List Char} {d : Char} (hcs : beginsMark cs = false)
    (hdash : d ≠ '-') (hpoint : d ≠ '.') : isDocumentMark (cs ++ d :: tail) = false := by
  unfold isDocumentMark
  split
  · next rest heq =>
    obtain _ | ⟨_, _ | ⟨_, _ | ⟨_, cs⟩⟩⟩ := cs <;> simp_all [beginsMark]
  · next rest heq =>
    obtain _ | ⟨_, _ | ⟨_, _ | ⟨_, cs⟩⟩⟩ := cs <;> simp_all [beginsMark]
  · rfl

/-- A plain scalar begins with no white space, and with no mark but a dash, a question mark or a
colon. -/
theorem ne_of_beginsPlain {inFlow : Bool} {c : Char} {rest : List Char}
    (hbegins : beginsPlain inFlow c rest = true) :
    isGap c = false ∧ ∀ d ∈ indicators.removeAll ['-', '?', ':'], c ≠ d := by
  simp only [beginsPlain, Bool.or_eq_true, Bool.and_eq_true, Bool.not_eq_true',
    decide_eq_true_eq] at hbegins
  rcases hbegins with (⟨hgap, hindicator⟩ | ⟨rfl, -⟩) | ⟨⟨-, rfl | rfl⟩, -⟩
  · refine ⟨hgap, ?_⟩
    rintro d hd rfl
    rw [List.contains_iff_mem.mpr (List.mem_filter.mp hd).1] at hindicator
    cases hindicator
  all_goals exact ⟨rfl, by simp [indicators, List.removeAll]⟩

/-- A plain scalar that begins with the mark of an entry, a key or a value goes on with a word. -/
theorem exists_word_of_beginsPlain {c : Char} {cs : List Char}
    (hbegins : beginsPlain false c cs = true) (hdash : c = '-' → cs ≠ [])
    (hstays : staysPlain c cs = true) (hc : c ∈ ['-', '?', ':']) :
    ∃ d ds, cs = d :: ds ∧ isGap d = false := by
  simp only [List.mem_cons, List.not_mem_nil, or_false] at hc
  cases cs with
  | nil =>
    rcases hc with rfl | rfl | rfl
    · exact absurd rfl (hdash rfl)
    · cases hbegins
    · cases hbegins
  | cons d ds =>
    refine ⟨d, ds, rfl, ?_⟩
    simp only [staysPlain, Bool.and_eq_true, Bool.not_eq_true'] at hstays
    obtain ⟨⟨⟨hbreak, -⟩, -⟩, -⟩ := hstays
    rcases hc with rfl | rfl | rfl
    · have hspace : ¬(d = ' ' ∨ d = '\t') := by
        simpa [beginsPlain, indicators] using hbegins
      simpa [isGap, hbreak] using hspace
    · simpa [beginsPlain, indicators, endsWord] using hbegins
    · simpa [beginsPlain, indicators, endsWord] using hbegins

/-! ### Reading on -/

section

variable {margin : Nat} {written gap tail : List Char} {place : Place}

/-- After a character that a plain scalar can go on from, no colon ends it. -/
theorem endsWord_eq_false {cs : List Char} (hplain : staysPlain ':' cs = true) :
    endsWord (cs ++ tail) = false := by
  cases cs with
  | nil => simp [staysPlain] at hplain
  | cons d cs =>
    simp only [staysPlain, Bool.and_eq_true, Bool.not_eq_true', decide_true, Bool.true_and]
      at hplain
    simp [endsWord, hplain.1.2]

/-- A plain scalar goes on with a character that can stand in it. -/
theorem endsPlain_eq_false {c : Char} {cs : List Char} (hplain : staysPlain c cs = true)
    (hgap : ∀ d ∈ gap, isBreak d = false) (hcomment : c = '#' → gap = [])
    (hmark : place.column = 0 → isDocumentMark (c :: cs ++ tail) = false) :
    endsPlain false margin gap place c (cs ++ tail) = false := by
  have hcolon : ¬(c = ':' ∧ endsWord (cs ++ tail) = true) := by
    rintro ⟨rfl, hends⟩
    rw [endsWord_eq_false hplain] at hends
    cases hends
  have hcomment' : ¬(¬gap.isEmpty = true ∧ c = '#') := by
    rintro ⟨hgap, hc⟩
    simp [hcomment hc] at hgap
  have hmark' : ¬(place.column = 0 ∧ isDocumentMark (c :: (cs ++ tail)) = true) := by
    rintro ⟨hcolumn, hmarked⟩
    rw [← List.cons_append, hmark hcolumn] at hmarked
    cases hmarked
  simp only [endsPlain, any_isBreak_eq_false hgap]
  simp_all

/-- A plain scalar is read up to what follows it. -/
theorem plainFrom_append {before : Char} {cs : List Char} (hplain : staysPlain before cs = true)
    (hbefore : (gap ++ written).head? = some before)
    (hgap : ∀ d ∈ gap, isGap d = true ∧ isBreak d = false) (hcolumn : place.column ≠ 0) :
    plainFrom false margin written gap place (cs ++ tail) =
      plainFrom false margin (cs.reverse ++ gap ++ written) [] (place.afterAll cs) tail := by
  induction cs generalizing before written gap place with
  | nil =>
    have hnone : gap = [] := by
      cases gap with
      | nil => rfl
      | cons d gap =>
        simp only [List.cons_append, List.head?_cons, Option.some.injEq] at hbefore
        simp [staysPlain, ← hbefore, (hgap d List.mem_cons_self).1] at hplain
    simp [hnone]
  | cons c cs ih =>
    have hbreaks : ∀ d ∈ gap, isBreak d = false := fun d hd => (hgap d hd).2
    simp only [staysPlain, Bool.and_eq_true, Bool.not_eq_true'] at hplain
    obtain ⟨⟨⟨hc, hcomment⟩, -⟩, hcs⟩ := hplain
    have hafter : (place.after c).column ≠ 0 := place.column_after_ne_zero hc
    rw [List.cons_append, plainFrom.eq_def]
    dsimp only
    -- White space waits in the gap until a word takes it along.
    by_cases hspace : isGap c = true
    · have hgap' : ∀ d ∈ c :: gap, isGap d = true ∧ isBreak d = false :=
        List.forall_mem_cons.mpr ⟨⟨hspace, hc⟩, hgap⟩
      rw [if_pos hspace, if_neg (by simp [any_isBreak_eq_false hbreaks]),
        ih hcs rfl hgap' hafter]
      simp
    · have hends : endsPlain false margin gap place c (cs ++ tail) = false := by
        refine endsPlain_eq_false hcs hbreaks (fun hhash => ?_) fun hzero => absurd hzero hcolumn
        cases gap with
        | nil => rfl
        | cons d gap =>
          simp only [List.cons_append, List.head?_cons, Option.some.injEq] at hbefore
          simp [hhash, ← hbefore, (hgap d List.mem_cons_self).1] at hcomment
      rw [if_neg hspace, hends, if_neg (by simp), if_neg (by simp),
        reverse_fold_reverse hbreaks, ih hcs rfl (by simp) hafter]
      simp

/-- A plain scalar is read from its first character up to what follows it. -/
theorem plainFrom_text (margin : Nat) {place : Place} {c : Char} {cs : List Char}
    (hc : isGap c = false) (hplain : staysPlain c cs = true)
    (hmark : place.column = 0 → isDocumentMark (c :: cs ++ tail) = false) :
    plainFrom false margin [] [] place (c :: cs ++ tail) =
      plainFrom false margin (c :: cs).reverse [] (place.afterAll (c :: cs)) tail := by
  have hafter : (place.after c).column ≠ 0 :=
    place.column_after_ne_zero (isBreak_eq_false_of_isGap hc)
  rw [List.cons_append, plainFrom.eq_def]
  dsimp only
  rw [if_neg (by simp [hc]), endsPlain_eq_false hplain (by simp) (by simp) hmark,
    if_neg (by simp), if_neg (by simp), plainFrom_append hplain rfl (by simp) hafter]
  simp [fold]

/-- A plain scalar ends at a colon with white space after it. -/
theorem plainFrom_colon (hends : endsWord tail = true) :
    plainFrom false margin written [] place (':' :: tail) =
      some ⟨.plain (String.ofList written.reverse), place, ':' :: tail, false⟩ := by
  have hplain : endsPlain false margin [] place ':' tail = true := by
    simp [endsPlain, hends]
  rw [plainFrom.eq_def]
  dsimp only
  rw [if_neg (by decide), hplain, if_pos rfl]
  rfl

/-- A plain scalar ends after a line break and spaces that do not reach the margin. -/
theorem plainFrom_spaces {n : Nat} (hgap : gap.any isBreak = true)
    (hnext : ∀ c ∈ tail.head?, isGap c = false ∧ place.column + n < margin) :
    plainFrom false margin written gap place (List.replicate n ' ' ++ tail) =
      some ⟨.plain (String.ofList written.reverse), place.afterAll (List.replicate n ' '), tail,
        true⟩ := by
  induction n generalizing gap place with
  | zero =>
    cases tail with
    | nil => simp [plainFrom, hgap]
    | cons c rest =>
      obtain ⟨hc, hcolumn⟩ := hnext c rfl
      have hends : endsPlain false margin gap place c rest = true := by
        simp [endsPlain, hgap, show place.column < margin from hcolumn]
      rw [List.replicate_zero, List.nil_append, plainFrom.eq_def]
      simp [hc, hends, hgap]
  | succ n ih =>
    have hafter : (place.after ' ').column = place.column + 1 := place.column_after rfl
    rw [List.replicate_succ, List.cons_append, plainFrom.eq_def]
    dsimp only
    rw [if_pos (by decide), if_neg (by simp), ih (by simp [hgap]), Place.afterAll_cons]
    intro c hc
    obtain ⟨hspace, hcolumn⟩ := hnext c hc
    exact ⟨hspace, by omega⟩

/-- A plain scalar ends with its line if the next one does not reach the margin. -/
theorem plainFrom_line (written : List Char) (place : Place) {n : Nat}
    (hnext : ∀ c ∈ tail.head?, isGap c = false ∧ n < margin) :
    plainFrom false margin written [] place ('\n' :: List.replicate n ' ' ++ tail) =
      some ⟨.plain (String.ofList written.reverse),
        place.afterAll ('\n' :: List.replicate n ' '), tail, true⟩ := by
  have hafter : (place.after '\n').column = 0 := rfl
  rw [List.cons_append, plainFrom.eq_def]
  dsimp only
  rw [if_pos (by decide), if_neg (by simp), plainFrom_spaces (by simp [isBreak])]
  · rfl
  · simpa [hafter] using hnext

end

/-! ### Digits -/

/-- A digit is no white space and no mark. -/
theorem ne_of_isDigit {c : Char} (hc : c.isDigit = true) :
    ∀ d ∈ [' ', '\t', '\n', '\u2028', '\u2029', '.', byteOrderMark] ++ indicators, c ≠ d := by
  have hall : ([' ', '\t', '\n', '\u2028', '\u2029', '.', byteOrderMark] ++ indicators).all
      (!·.isDigit) = true := by
    decide
  rintro d hd rfl
  have hdigit := List.all_eq_true.mp hall c hd
  rw [hc] at hdigit
  cases hdigit

/-- A digit is no white space. -/
theorem isGap_eq_false_of_isDigit {c : Char} (hc : c.isDigit = true) : isGap c = false := by
  have hother := ne_of_isDigit hc
  simp [isGap, isBreak, hother]

/-- Digits stay plain. -/
theorem staysPlain_of_isDigit {before : Char} {cs : List Char} (hbefore : before.isDigit = true)
    (hcs : ∀ c ∈ cs, c.isDigit = true) : staysPlain before cs = true := by
  have hcolon : before ≠ ':' := ne_of_isDigit hbefore ':' (by decide)
  have hword : isGap before = false := isGap_eq_false_of_isDigit hbefore
  induction cs generalizing before with
  | nil => simp [staysPlain, hword, hcolon]
  | cons c cs ih =>
    obtain ⟨hc, hcs⟩ := List.forall_mem_cons.mp hcs
    have hgap : isGap c = false := isGap_eq_false_of_isDigit hc
    have hmore : staysPlain c cs = true := ih hc hcs (ne_of_isDigit hc ':' (by decide)) hgap
    simp [staysPlain, isBreak_eq_false_of_isGap hgap, hword, hcolon, hmore]

end SitePlan.Yaml
