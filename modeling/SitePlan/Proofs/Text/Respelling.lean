import Mathlib.Data.List.TakeWhile
import SitePlan.Proofs.Text.Digits

/-!
# Text that is typed differently

People type one text in different ways: with other ASCII letter case, with more or less white
space around it, and numbers with zeros in front. What is read from a text, its trimmed form in
lower case or its first number, does not depend on any of these.
-/

namespace SitePlan.Text

/-! ### Letter case -/

/-- Every character but an ASCII capital is its own small form; that of a capital stands 32
places after it. -/
theorem toLower_cases (c : Char) :
    c.toLower = c ∨ ∃ i < 26, c = Char.ofNat (0x41 + i) ∧ c.toLower = Char.ofNat (0x61 + i) := by
  by_cases hcapital : 0x41 ≤ c.toNat ∧ c.toNat ≤ 0x5A
  · have hsmall : ∀ i < 26, (Char.ofNat (0x41 + i)).toLower = Char.ofNat (0x61 + i) := by decide
    have hself : c = Char.ofNat (0x41 + (c.toNat - 0x41)) := by
      rw [Nat.add_sub_cancel' hcapital.1, Char.ofNat_toNat]
    refine .inr ⟨c.toNat - 0x41, by omega, hself, ?_⟩
    rw [← hsmall (c.toNat - 0x41) (by omega), ← hself]
  · refine .inl (dif_neg ?_)
    rintro ⟨hlow, hhigh⟩
    rw [ge_iff_le, UInt32.le_iff_toNat_le] at hlow
    rw [UInt32.le_iff_toNat_le] at hhigh
    exact hcapital ⟨hlow, hhigh⟩

/-- What is the same for both cases of every ASCII letter does not depend on ASCII letter
case. -/
theorem apply_toLower {β : Type} {f : Char → β}
    (hf : ∀ i < 26, f (Char.ofNat (0x61 + i)) = f (Char.ofNat (0x41 + i))) (c : Char) :
    f c.toLower = f c := by
  rcases toLower_cases c with hself | ⟨i, hi, hcapital, hsmall⟩
  · rw [hself]
  · rw [hsmall, hf i hi, ← hcapital]

/-- A character has this small letter as its small form exactly if it is the letter or its
capital. -/
theorem toLower_eq_iff {c letter : Char} (hletter : letter.isLower = true) :
    c.toLower = letter ↔ c = letter ∨ c = letter.toUpper := by
  have hrange := Bool.and_eq_true_iff.mp hletter
  have hlow : 0x61 ≤ letter.toNat := UInt32.le_iff_toNat_le.mp (of_decide_eq_true hrange.1)
  have hhigh : letter.toNat ≤ 0x7A := UInt32.le_iff_toNat_le.mp (of_decide_eq_true hrange.2)
  obtain ⟨i, hi, rfl⟩ : ∃ i < 26, letter = Char.ofNat (0x61 + i) :=
    ⟨letter.toNat - 0x61, by omega, by rw [Nat.add_sub_cancel' hlow, Char.ofNat_toNat]⟩
  have hforms : ∀ i < 26, (Char.ofNat (0x61 + i)).toUpper = Char.ofNat (0x41 + i) ∧
      (Char.ofNat (0x61 + i)).toLower = Char.ofNat (0x61 + i) ∧
      (Char.ofNat (0x41 + i)).toLower = Char.ofNat (0x61 + i) := by decide
  obtain ⟨hupper, hsmall, hcapital⟩ := hforms i hi
  constructor
  · intro hc
    rcases toLower_cases c with hself | ⟨j, hj, rfl, hlower⟩
    · exact .inl (hself.symm.trans hc)
    · rw [hc] at hlower
      rw [hlower]
      exact .inr (hforms j hj).1.symm
  · rintro (rfl | rfl)
    · exact hsmall
    · rw [hupper, hcapital]

/-- White space has no letter case. -/
theorem isBlank_toLower (c : Char) : isBlank c.toLower = isBlank c :=
  apply_toLower (by decide) c

/-- Decimal digits have no letter case. -/
theorem isDecimalDigit_toLower (c : Char) : isDecimalDigit c.toLower = isDecimalDigit c :=
  apply_toLower (by decide) c

/-- A letter is a letter in either case. -/
theorem isAlpha_toLower (c : Char) : c.toLower.isAlpha = c.isAlpha :=
  apply_toLower (f := Char.isAlpha) (by decide) c

/-- A decimal digit is not changed by letter case. -/
theorem toLower_of_isDecimalDigit {c : Char} (hc : isDecimalDigit c = true) : c.toLower = c := by
  rcases toLower_cases c with hself | ⟨i, hi, hcapital, _⟩
  · exact hself
  · have hletters : ∀ i < 26, isDecimalDigit (Char.ofNat (0x41 + i)) = false := by decide
    rw [hcapital, hletters i hi] at hc
    cases hc

/-- Trimming commutes with ASCII letter case. -/
theorem trim_map_toLower (cs : List Char) :
    trim (cs.map Char.toLower) = (trim cs).map Char.toLower := by
  have hblank : isBlank ∘ Char.toLower = isBlank := funext isBlank_toLower
  simp only [trim, trimRight, List.dropWhile_map, ← List.map_reverse, hblank]

/-- The ranges lie apart from these code points. -/
def rangesAvoid (ranges : List (Nat × Nat)) (first last : Nat) : Bool :=
  ranges.all fun range => Nat.blt range.2 first || Nat.blt last range.1

/-- What a word's end looks past are no ASCII letters or digits, and no ASCII digit has case. -/
theorem wordEnd_avoids :
    (rangesAvoid caseIgnorableRanges 0x30 0x39 && rangesAvoid caseIgnorableRanges 0x41 0x5A &&
      rangesAvoid caseIgnorableRanges 0x61 0x7A && rangesAvoid casedRanges 0x30 0x39) = true := by
  decide +kernel

/-- Code points that ranges avoid are in none of them. -/
theorem inRanges_of_avoid {ranges : List (Nat × Nat)} {first last : Nat}
    (havoid : rangesAvoid ranges first last = true) {c : Char} (hfirst : first ≤ c.toNat)
    (hlast : c.toNat ≤ last) : inRanges ranges c = false := by
  simp only [inRanges, List.any_eq_false, Bool.and_eq_true, decide_eq_true_eq]
  intro range hrange
  have hapart := List.all_eq_true.mp havoid range hrange
  rw [Bool.or_eq_true, Nat.blt_eq, Nat.blt_eq] at hapart
  omega

/-- No ASCII letter is a mark that a word's end looks past. -/
theorem inRanges_caseIgnorable_toLower (c : Char) :
    inRanges caseIgnorableRanges c.toLower = inRanges caseIgnorableRanges c := by
  have havoids := wordEnd_avoids
  simp only [Bool.and_eq_true] at havoids
  obtain ⟨⟨⟨_, hcapitals⟩, hsmalls⟩, _⟩ := havoids
  refine apply_toLower (f := inRanges caseIgnorableRanges) (fun i hi => ?_) c
  have hletters : ∀ i < 26, 0x61 ≤ (Char.ofNat (0x61 + i)).toNat ∧
      (Char.ofNat (0x61 + i)).toNat ≤ 0x7A ∧ 0x41 ≤ (Char.ofNat (0x41 + i)).toNat ∧
      (Char.ofNat (0x41 + i)).toNat ≤ 0x5A := by decide
  obtain ⟨hsmall, hsmall', hcapital, hcapital'⟩ := hletters i hi
  rw [inRanges_of_avoid hsmalls hsmall hsmall', inRanges_of_avoid hcapitals hcapital hcapital']

/-- ASCII letters have case in either case. -/
theorem inRanges_cased_toLower (c : Char) :
    inRanges casedRanges c.toLower = inRanges casedRanges c :=
  apply_toLower (f := inRanges casedRanges) (by decide) c

/-- Whether a word goes on does not depend on ASCII letter case. -/
theorem continuesWord_map_toLower (cs : List Char) :
    continuesWord (cs.map Char.toLower) = continuesWord cs := by
  have hignorable : inRanges caseIgnorableRanges ∘ Char.toLower = inRanges caseIgnorableRanges :=
    funext inRanges_caseIgnorable_toLower
  rw [continuesWord, continuesWord, List.dropWhile_map, hignorable]
  cases cs.dropWhile (inRanges caseIgnorableRanges) with
  | nil => rfl
  | cons c rest => exact inRanges_cased_toLower c

/-- Of the text around a character only whether a word ends there matters to its lower case. -/
theorem lowerBetween_congr {before before' after after' : List Char}
    (hends : atWordEnd before after = atWordEnd before' after') (c : Char) :
    lowerBetween before c after = lowerBetween before' c after' := by
  rw [lowerBetween, hends, lowerBetween]

/-- A character in lower case does not depend on ASCII letter case, its own or that of the text
around it. -/
theorem lowerBetween_map_toLower (before : List Char) (c : Char) (after : List Char) :
    lowerBetween (before.map Char.toLower) c.toLower (after.map Char.toLower) =
      lowerBetween before c after := by
  have hends : atWordEnd (before.map Char.toLower) (after.map Char.toLower) =
      atWordEnd before after := by
    simp only [atWordEnd, continuesWord_map_toLower]
  rw [← lowerBetween_congr hends c]
  refine apply_toLower (f := (lowerBetween (before.map Char.toLower) · (after.map Char.toLower)))
    (fun i hi => ?_) c
  have hletters : ∀ i < 26, (Char.ofNat (0x61 + i)).toNat < 0x80 ∧
      (Char.ofNat (0x41 + i)).toNat < 0x80 ∧
      (Char.ofNat (0x61 + i)).toLower = (Char.ofNat (0x41 + i)).toLower := by decide
  obtain ⟨hsmall, hcapital, hsame⟩ := hletters i hi
  rw [lowerBetween, if_pos hsmall, lowerBetween, if_pos hcapital, hsame]

/-- Lower case does not depend on ASCII letter case. -/
theorem lower_map_toLower (cs : List Char) : lower (cs.map Char.toLower) = lower cs := by
  suffices h : ∀ before, lowerFrom (before.map Char.toLower) (cs.map Char.toLower) =
      lowerFrom before cs from h []
  induction cs with
  | nil => exact fun _ => rfl
  | cons c rest ih =>
    intro before
    rw [List.map_cons, lowerFrom, lowerBetween_map_toLower, lowerFrom, ← ih (c :: before),
      List.map_cons]

/-! ### Surrounding white space -/

/-- A character that does not pass the test ends what is dropped. -/
theorem dropWhile_append_cons {p : Char → Bool} (cs : List Char) {d : Char} (hd : p d = false)
    (ds : List Char) : (cs ++ d :: ds).dropWhile p = cs.dropWhile p ++ d :: ds := by
  induction cs with
  | nil => simp [hd]
  | cons c rest ih =>
    rw [List.cons_append, List.dropWhile_cons, List.dropWhile_cons, ih]
    split <;> rfl

/-- Only what follows a character that is no white space is trimmed on the right. -/
theorem trimRight_append_cons (cs : List Char) {d : Char} (hd : isBlank d = false)
    (ds : List Char) : trimRight (cs ++ d :: ds) = cs ++ d :: trimRight ds := by
  have hreverse : (cs ++ d :: ds).reverse = ds.reverse ++ d :: cs.reverse := by simp
  rw [trimRight, hreverse, dropWhile_append_cons _ hd, trimRight]
  simp

/-- Trimming works on both sides of a character that is no white space. -/
theorem trim_append_cons (cs : List Char) {d : Char} (hd : isBlank d = false) (ds : List Char) :
    trim (cs ++ d :: ds) = cs.dropWhile isBlank ++ d :: trimRight ds := by
  rw [trim, dropWhile_append_cons cs hd, trimRight_append_cons _ hd]

/-- Trimming leaves nothing of white space, and of no other text. -/
theorem trim_eq_nil_iff {cs : List Char} : trim cs = [] ↔ ∀ c ∈ cs, isBlank c = true := by
  rw [trim, trimRight, List.reverse_eq_nil_iff, List.dropWhile_eq_nil_iff]
  constructor
  · intro hrest
    have hnone : cs.dropWhile isBlank = [] := by
      by_contra hsome
      have hfirst := List.head_dropWhile_not isBlank hsome
      rw [hrest _ (List.mem_reverse.mpr (List.head_mem hsome))] at hfirst
      cases hfirst
    exact List.dropWhile_eq_nil_iff.mp hnone
  · exact fun hall c hc => hall c ((List.dropWhile_suffix _).mem (List.mem_reverse.mp hc))

/-- Trimming adds no characters. -/
theorem mem_of_mem_trim {cs : List Char} {c : Char} (hc : c ∈ trim cs) : c ∈ cs := by
  rw [trim, trimRight, List.mem_reverse] at hc
  exact (List.dropWhile_suffix _).mem (List.mem_reverse.mp ((List.dropWhile_suffix _).mem hc))

/-- White space around a text is trimmed. -/
theorem trim_append_blank {before after : List Char} (hbefore : ∀ c ∈ before, isBlank c = true)
    (hafter : ∀ c ∈ after, isBlank c = true) (cs : List Char) :
    trim (before ++ cs ++ after) = trim cs := by
  have hright : ∀ ds : List Char, trimRight (ds ++ after) = trimRight ds := by
    intro ds
    have hblank : ∀ c ∈ after.reverse, isBlank c = true := by simpa using hafter
    rw [trimRight, List.reverse_append, List.dropWhile_append_of_pos hblank, trimRight]
  rw [trim, List.append_assoc, List.dropWhile_append_of_pos hbefore, trim, List.dropWhile_append]
  split
  · next hempty =>
    rw [List.isEmpty_iff] at hempty
    rw [hempty, List.dropWhile_eq_nil_iff.mpr hafter]
  · exact hright _

/-! ### Digits in lower case -/

/-- No ASCII digit is looked past at a word's end, and none has case. -/
theorem not_inRanges_of_isDigit {c : Char} (hc : c.isDigit = true) :
    inRanges caseIgnorableRanges c = false ∧ inRanges casedRanges c = false := by
  have havoids := wordEnd_avoids
  simp only [Bool.and_eq_true] at havoids
  obtain ⟨⟨⟨hignorable, _⟩, _⟩, hcased⟩ := havoids
  rw [isDigit_iff] at hc
  exact ⟨inRanges_of_avoid hignorable hc.1 hc.2, inRanges_of_avoid hcased hc.1 hc.2⟩

/-- No word goes on at an ASCII digit. -/
theorem continuesWord_append_digit (cs : List Char) {d : Char} (hd : d.isDigit = true)
    (ds : List Char) : continuesWord (cs ++ d :: ds) = continuesWord cs := by
  obtain ⟨hignorable, hcased⟩ := not_inRanges_of_isDigit hd
  rw [continuesWord, dropWhile_append_cons cs hignorable, continuesWord]
  cases cs.dropWhile (inRanges caseIgnorableRanges) with
  | nil => exact hcased
  | cons c rest => rfl

/-- What stands before an ASCII digit cannot be seen from behind it. -/
theorem lowerFrom_append_digit (before : List Char) {d : Char} (hd : d.isDigit = true)
    (more ds : List Char) : lowerFrom (before ++ d :: more) ds = lowerFrom before ds := by
  induction ds generalizing before with
  | nil => rfl
  | cons c rest ih =>
    have hends : atWordEnd (before ++ d :: more) rest = atWordEnd before rest := by
      rw [atWordEnd, continuesWord_append_digit before hd more, atWordEnd]
    rw [lowerFrom, lowerFrom, ← List.cons_append, ih, lowerBetween_congr hends]

/-- Lower case works on both sides of an ASCII digit, which keeps the words on them apart. -/
theorem lower_append_digit (cs : List Char) {d : Char} (hd : d.isDigit = true)
    (ds : List Char) : lower (cs ++ d :: ds) = lower cs ++ d :: lower ds := by
  suffices h : ∀ before,
      lowerFrom before (cs ++ d :: ds) = lowerFrom before cs ++ d :: lower ds from h []
  induction cs with
  | nil =>
    intro before
    have hfrom : lowerFrom (d :: before) ds = lower ds := lowerFrom_append_digit [] hd before ds
    rw [List.nil_append, lowerFrom.eq_2,
      isLower_of_isDecimalDigit (isDecimalDigit_of_isDigit hd) before ds, hfrom]
    rfl
  | cons c rest ih =>
    intro before
    have hends : atWordEnd before (rest ++ d :: ds) = atWordEnd before rest := by
      rw [atWordEnd, continuesWord_append_digit rest hd ds, atWordEnd]
    rw [List.cons_append, lowerFrom, ih, lowerBetween_congr hends, lowerFrom, List.append_assoc]

/-- A character in lower case is still there in lower case. -/
theorem mem_lower_of_isLower {cs : List Char} {c : Char} (hc : IsLower c) (hmem : c ∈ cs) :
    c ∈ lower cs := by
  suffices h : ∀ before, c ∈ lowerFrom before cs from h []
  induction cs with
  | nil => cases hmem
  | cons d rest ih =>
    intro before
    rw [lowerFrom, List.mem_append]
    rcases List.mem_cons.mp hmem with rfl | hmem
    · exact .inl (by simp [hc before rest])
    · exact .inr (ih hmem _)

/-- A small form is no ASCII digit. -/
theorem not_isDigit_smallForm {run : CapitalRun} (hrun : run ∈ capitalRuns) (n : Nat) :
    (Char.ofNat (run.smallForm n)).isDigit = false := by
  have hfirst : run.small ≤ run.smallForm n := Nat.le_add_right _ _
  have hbeyond : 0x61 ≤ run.smallForm n := by
    rcases smallForms_plain run hrun with ⟨hlow, _⟩ | ⟨hlow, _⟩ <;> omega
  rw [Bool.eq_false_iff]
  intro hdigit
  rw [isDigit_iff] at hdigit
  by_cases hvalid : (run.smallForm n).isValidChar
  · have hform : Char.ofNat (run.smallForm n) = Char.ofNatAux _ hvalid := dif_pos hvalid
    have hvalue : (Char.ofNatAux _ hvalid).toNat = run.smallForm n := rfl
    rw [hform] at hdigit
    omega
  · have hform : Char.ofNat (run.smallForm n) = '\x00' := dif_neg hvalid
    rw [hform] at hdigit
    exact absurd hdigit.1 (by decide)

/-- Lower case makes no ASCII digit out of another character. -/
theorem eq_of_isDigit_of_mem_lowerBetween {before after : List Char} {c d : Char}
    (hd : d.isDigit = true) (hmem : d ∈ lowerBetween before c after) : d = c := by
  rcases lowerBetween_cases before c after with ⟨_, hform⟩ | ⟨_, hforms⟩ | ⟨_, hform⟩
  · rw [hform, List.mem_singleton] at hmem
    subst hmem
    have hdigit : isDecimalDigit c = true := by
      rw [← isDecimalDigit_toLower]
      exact isDecimalDigit_of_isDigit hd
    exact toLower_of_isDecimalDigit hdigit
  · have hnone : (specialForms.all fun c => !c.isDigit) = true := by decide
    have hno := List.all_eq_true.mp hnone d (hforms d hmem)
    rw [hd] at hno
    cases hno
  · rw [hform, List.mem_singleton] at hmem
    rcases lowerLetter_cases c with ⟨hself, _⟩ | ⟨run, hrun, hcapital, hsmall⟩
    · rw [hmem, hself]
    · rw [hmem, hsmall, not_isDigit_smallForm hrun] at hd
      cases hd

/-- The ASCII digits of a text in lower case are those of the text. -/
theorem mem_of_isDigit_of_mem_lower {cs : List Char} {d : Char} (hd : d.isDigit = true)
    (hmem : d ∈ lower cs) : d ∈ cs := by
  suffices h : ∀ before, d ∈ lowerFrom before cs → d ∈ cs from h [] hmem
  clear hmem
  induction cs with
  | nil => exact fun _ hmem => hmem
  | cons c rest ih =>
    intro before hmem
    rw [lowerFrom, List.mem_append] at hmem
    rcases hmem with hmem | hmem
    · rw [eq_of_isDigit_of_mem_lowerBetween hd hmem]
      exact List.mem_cons_self
    · exact List.mem_cons_of_mem c (ih _ hmem)

/-! ### Zeros in front of a number -/

/-- A zero in front of digits does not change their number. -/
theorem readNat?_zero_cons {ds : List Char} (hsome : ds ≠ []) :
    readNat? ('0' :: ds) = readNat? ds := by
  obtain ⟨d, rest, rfl⟩ := List.exists_cons_of_ne_nil hsome
  have hvalue : Nat.ofDigitChars 10 ('0' :: d :: rest) 0 = Nat.ofDigitChars 10 (d :: rest) 0 := by
    rw [Nat.ofDigitChars_cons]
    rfl
  simp [readNat?, hvalue]

/-- Zeros in front of digits do not change their number. -/
theorem readNat?_replicate_zero (count : Nat) {ds : List Char} (hsome : ds ≠ []) :
    readNat? (List.replicate count '0' ++ ds) = readNat? ds := by
  induction count with
  | zero => rfl
  | succ count ih =>
    rw [List.replicate_succ, List.cons_append, readNat?_zero_cons (by simp [hsome]), ih]

/-- Digits without padding are those of the same number. -/
theorem readNat?_unpad (cs : List Char) : readNat? (unpad cs) = readNat? cs := by
  induction cs with
  | nil => rfl
  | cons c rest ih =>
    unfold unpad
    split
    · next hpad =>
      have hrest : rest ≠ [] := by
        rintro rfl
        simp at hpad
      rw [ih, hpad.1, readNat?_zero_cons hrest]
    · rfl

/-- Trimming leaves zeros in front of a number alone. -/
theorem trim_zeros (before : List Char) {d : Char} (hd : isDecimalDigit d = true)
    (after : List Char) (count : Nat) :
    trim (before ++ (List.replicate count '0' ++ d :: after)) =
      before.dropWhile isBlank ++ (List.replicate count '0' ++ d :: trimRight after) := by
  cases count with
  | zero => exact trim_append_cons before (not_isBlank_of_isDecimalDigit hd) after
  | succ count =>
    rw [List.replicate_succ, List.cons_append, trim_append_cons before (by rfl),
      trimRight_append_cons _ (not_isBlank_of_isDecimalDigit hd), List.cons_append]

/-- Lower case leaves zeros in front of a number alone. -/
theorem lower_zeros (before : List Char) {d : Char} (hd : d.isDigit = true)
    (after : List Char) (count : Nat) :
    lower (before ++ (List.replicate count '0' ++ d :: after)) =
      lower before ++ (List.replicate count '0' ++ d :: lower after) := by
  induction count generalizing before with
  | zero => exact lower_append_digit before hd after
  | succ count ih =>
    have hrest := ih []
    rw [List.nil_append] at hrest
    rw [List.replicate_succ, List.cons_append, lower_append_digit before (by rfl), hrest]
    rfl

end SitePlan.Text
