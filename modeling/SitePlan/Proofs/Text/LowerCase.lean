import SitePlan.Text.Blank
import SitePlan.Text.LowerCase

/-!
# Trimmed text in lower case

A text without white space around it stays so in lower case, and lower case is reached in one
step: the small form of a letter is the capital of no other letter, so whatever a text in
lower case is made of is left alone, in any other surroundings too.
-/

namespace SitePlan.Text

/-! ### White space -/

/-- A text without white space around it. -/
structure Trimmed (cs : List Char) : Prop where
  /-- The text does not begin with white space. -/
  first : ∀ c ∈ cs.head?, isBlank c = false
  /-- The text does not end with white space. -/
  last : ∀ c ∈ cs.getLast?, isBlank c = false

/-- A text without white space has none around it. -/
theorem trimmed_of_forall {cs : List Char} (hall : ∀ c ∈ cs, isBlank c = false) :
    Trimmed cs where
  first := fun c hc => hall c (List.mem_of_mem_head? hc)
  last := fun c hc => hall c (List.mem_of_getLast? hc)

/-- Trimming leaves no white space around a text. -/
theorem trimmed_trim (cs : List Char) : Trimmed (trim cs) where
  first := by
    intro c hc
    have hprefix : trim cs <+: cs.dropWhile isBlank := by
      rw [trim, trimRight, ← List.reverse_suffix, List.reverse_reverse]
      exact List.dropWhile_suffix _
    have hhead : (cs.dropWhile isBlank).head? = some c := by
      obtain ⟨rest, hrest⟩ := hprefix
      rw [← hrest, List.head?_append, Option.mem_def.mp hc]
      rfl
    have hdrop := List.head?_dropWhile_not isBlank cs
    rw [hhead] at hdrop
    simpa using hdrop
  last := fun _ hc => not_isBlank_of_getLast?_trimRight hc

/-- A text without white space around it is trimmed. -/
theorem Trimmed.trim_eq_self {cs : List Char} (h : Trimmed cs) : trim cs = cs := by
  have hkept : ∀ ds : List Char, (∀ c ∈ ds.head?, isBlank c = false) →
      ds.dropWhile isBlank = ds := by
    intro ds hds
    cases ds with
    | nil => rfl
    | cons c rest => exact List.dropWhile_cons_of_neg (by simp [hds c rfl])
  have hreverse : ∀ c ∈ cs.reverse.head?, isBlank c = false := by
    rw [List.head?_reverse]
    exact h.last
  rw [trim, hkept cs h.first, trimRight, hkept cs.reverse hreverse, List.reverse_reverse]

/-! ### Lower case -/

/-- The character is in lower case, wherever it stands. -/
def IsLower (c : Char) : Prop := ∀ before after, lowerBetween before c after = [c]

/-- A text whose characters are all in lower case is in lower case. -/
theorem lower_eq_self {cs : List Char} (hall : ∀ c ∈ cs, IsLower c) : lower cs = cs := by
  suffices h : ∀ before, lowerFrom before cs = cs from h []
  induction cs with
  | nil => exact fun _ => rfl
  | cons c rest ih =>
    intro before
    rw [lowerFrom, hall c List.mem_cons_self,
      ih fun d hd => hall d (List.mem_cons_of_mem c hd)]
    rfl

/-- The code point is that of a capital of the run. -/
def CapitalRun.HasCapital (run : CapitalRun) (n : Nat) : Prop :=
  run.first ≤ n ∧ n ≤ run.last ∧ (n - run.first) % run.step = 0

instance (run : CapitalRun) (n : Nat) : Decidable (run.HasCapital n) :=
  inferInstanceAs (Decidable (_ ∧ _ ∧ _))

/-- The code point of the small form of a capital of the run. -/
def CapitalRun.smallForm (run : CapitalRun) (n : Nat) : Nat := run.small + (n - run.first)

/-- The code point of the last small form of the run. -/
def CapitalRun.lastSmall (run : CapitalRun) : Nat := run.smallForm run.last

/-- No small form of the run is a capital of the other one: the two lie apart, or small forms
stand between capitals. -/
def CapitalRun.avoids (run other : CapitalRun) : Bool :=
  Nat.blt run.lastSmall other.first || Nat.blt other.last run.small ||
    (other.step == 2 && (run.step == 2 || run.first == run.last) &&
      (run.small + other.first) % 2 == 1)

/-- No letter is both a small form and a capital. -/
theorem capitalRuns_avoid : (capitalRuns.all fun run => capitalRuns.all run.avoids) = true := by
  decide +kernel

/-- Small forms are ASCII letters or lie beyond them, where they avoid white space, the two
letters with forms of their own and the code points that are no characters. -/
theorem smallForms_plain : ∀ run ∈ capitalRuns,
    (0x61 ≤ run.small ∧ run.lastSmall ≤ 0x7A) ∨
      (0xA1 ≤ run.small ∧ run.lastSmall < 0x110000 ∧
        ∀ gap ∈ [(0x130, 0x130), (0x3A3, 0x3A3), (0x1680, 0x1680), (0x2000, 0x205F),
          (0x3000, 0x3000), (0xD800, 0xDFFF)],
          run.lastSmall < gap.1 ∨ gap.2 < run.small) := by
  decide +kernel

/-- A small form is the capital of no run. -/
theorem not_hasCapital_smallForm {run other : CapitalRun} {n : Nat} (hrun : run ∈ capitalRuns)
    (hother : other ∈ capitalRuns) (hn : run.HasCapital n) :
    ¬other.HasCapital (run.smallForm n) := by
  have hall := capitalRuns_avoid
  simp only [List.all_eq_true] at hall
  have havoids := hall run hrun other hother
  simp only [CapitalRun.avoids, CapitalRun.lastSmall, CapitalRun.smallForm, Bool.or_eq_true,
    Bool.and_eq_true, Nat.blt_eq, beq_iff_eq] at havoids
  obtain ⟨hfirst, hlast, hstep⟩ := hn
  rintro ⟨hlow, hhigh, hother⟩
  simp only [CapitalRun.smallForm] at hlow hhigh hother
  rcases havoids with (hbelow | habove) | ⟨⟨htwo, hrunStep⟩, hodd⟩
  · omega
  · omega
  · rw [htwo] at hother
    have heven : (n - run.first) % 2 = 0 := by
      rcases hrunStep with hrunStep | hsingle
      · rwa [hrunStep] at hstep
      · omega
    omega

/-- A letter becomes its small form in the first run that has it. -/
theorem lowerLetter_eq (c : Char) :
    lowerLetter c = ((capitalRuns.find? fun run => run.HasCapital c.toNat).elim c fun run =>
      Char.ofNat (run.smallForm c.toNat)) := by
  have hsame : (fun run : CapitalRun => run.first ≤ c.toNat && c.toNat ≤ run.last &&
      (c.toNat - run.first) % run.step == 0) = fun run => decide (run.HasCapital c.toNat) := by
    funext run
    rw [Bool.eq_iff_iff, decide_eq_true_iff]
    simp [CapitalRun.HasCapital, and_assoc]
  simp only [lowerLetter, hsame]
  cases capitalRuns.find? fun run => decide (run.HasCapital c.toNat) <;> rfl

/-- A letter that is no capital of a run is its own small form. -/
theorem lowerLetter_eq_self {c : Char} (hc : ∀ run ∈ capitalRuns, ¬run.HasCapital c.toNat) :
    lowerLetter c = c := by
  have hnone : (capitalRuns.find? fun run => run.HasCapital c.toNat) = none :=
    List.find?_eq_none.mpr fun run hrun => by simpa using hc run hrun
  rw [lowerLetter_eq, hnone, Option.elim_none]

/-- A letter is its own small form or a capital of some run. -/
theorem lowerLetter_cases (c : Char) :
    (lowerLetter c = c ∧ ∀ run ∈ capitalRuns, ¬run.HasCapital c.toNat) ∨
      ∃ run ∈ capitalRuns, run.HasCapital c.toNat ∧
        lowerLetter c = Char.ofNat (run.smallForm c.toNat) := by
  cases hfound : capitalRuns.find? fun run => run.HasCapital c.toNat with
  | none =>
    have hno : ∀ run ∈ capitalRuns, ¬run.HasCapital c.toNat := fun run hrun => by
      simpa using List.find?_eq_none.mp hfound run hrun
    exact .inl ⟨lowerLetter_eq_self hno, hno⟩
  | some run =>
    have hholds : run.HasCapital c.toNat := by simpa using List.find?_some hfound
    refine .inr ⟨run, List.mem_of_find?_eq_some hfound, hholds, ?_⟩
    rw [lowerLetter_eq, hfound, Option.elim_some]

/-- ASCII letters in lower case are in lower case, and none of them is white space. -/
theorem isLower_toLower {c : Char} (hc : c.toNat < 0x80) :
    IsLower c.toLower ∧ (isBlank c = false → isBlank c.toLower = false) := by
  have hascii : ∀ i < 0x80, (Char.ofNat i).toLower.toNat < 0x80 ∧
      (Char.ofNat i).toLower.toLower = (Char.ofNat i).toLower ∧
      (isBlank (Char.ofNat i) = false → isBlank (Char.ofNat i).toLower = false) := by
    decide +kernel
  obtain ⟨hlow, htwice, hblank⟩ := hascii c.toNat hc
  rw [Char.ofNat_toNat] at hlow htwice hblank
  exact ⟨fun _ _ => by rw [lowerBetween, if_pos hlow, htwice], hblank⟩

/-- A character beyond ASCII that is no capital is in lower case. -/
theorem isLower_of_not_hasCapital {c : Char} (hc : 0x80 ≤ c.toNat) (hdotted : c ≠ 'İ')
    (hsigma : c ≠ 'Σ') (hnone : ∀ run ∈ capitalRuns, ¬run.HasCapital c.toNat) : IsLower c := by
  intro before after
  rw [lowerBetween, if_neg (by omega), if_neg hdotted, if_neg hsigma, lowerLetter_eq_self hnone]

/-- A small form is in lower case and no white space. -/
theorem isLower_smallForm {run : CapitalRun} {n : Nat} (hrun : run ∈ capitalRuns)
    (hn : run.HasCapital n) :
    IsLower (Char.ofNat (run.smallForm n)) ∧ isBlank (Char.ofNat (run.smallForm n)) = false := by
  have hlast : run.smallForm n ≤ run.lastSmall := by
    have hle := hn.2.1
    simp only [CapitalRun.lastSmall, CapitalRun.smallForm]
    omega
  have hfirst : run.small ≤ run.smallForm n := Nat.le_add_right _ _
  rcases smallForms_plain run hrun with ⟨hlow, hhigh⟩ | ⟨hlow, hhigh, hgaps⟩
  · have hletters : ∀ i < 26, (Char.ofNat (0x61 + i)).toLower = Char.ofNat (0x61 + i) ∧
        (Char.ofNat (0x61 + i)).toNat < 0x80 ∧ isBlank (Char.ofNat (0x61 + i)) = false := by
      decide
    obtain ⟨hlower, hascii, hblank⟩ := hletters (run.smallForm n - 0x61) (by omega)
    rw [Nat.add_sub_cancel' (by omega)] at hlower hascii hblank
    exact ⟨fun _ _ => by rw [lowerBetween, if_pos hascii, hlower], hblank⟩
  · simp only [List.forall_mem_cons, List.not_mem_nil, false_implies, implies_true,
      and_true] at hgaps
    have hvalue : (Char.ofNat (run.smallForm n)).toNat = run.smallForm n := by
      have hvalid : (run.smallForm n).isValidChar := by
        simp only [Nat.isValidChar]
        omega
      rw [Char.ofNat, dif_pos hvalid]
      rfl
    refine ⟨isLower_of_not_hasCapital (by omega) ?_ ?_ ?_, ?_⟩
    · intro heq
      have hdotted : run.smallForm n = 0x130 := by rw [← hvalue, heq]; rfl
      omega
    · intro heq
      have hsigma : run.smallForm n = 0x3A3 := by rw [← hvalue, heq]; rfl
      omega
    · rw [hvalue]
      exact fun other hother => not_hasCapital_smallForm hrun hother hn
    · simp only [isBlank, hvalue, Bool.or_eq_false_iff, Bool.and_eq_false_iff,
        decide_eq_false_iff_not, beq_eq_false_iff_ne]
      omega

/-- The characters that stand for the dotted capital I and the capital sigma. -/
def specialForms : List Char := ['i', '\u0307', 'ς', 'σ']

/-- Special forms are in lower case and no white space. -/
theorem isLower_specialForm {c : Char} (hc : c ∈ specialForms) :
    IsLower c ∧ isBlank c = false := by
  have hplain : (specialForms.all fun c => (c.toNat < 0x80 → c.toLower = c) ∧
      lowerLetter c = c ∧ c ≠ 'İ' ∧ c ≠ 'Σ' ∧ isBlank c = false) = true := by
    decide +kernel
  obtain ⟨hascii, hletter, hdotted, hsigma, hblank⟩ :=
    of_decide_eq_true (List.all_eq_true.mp hplain c hc)
  refine ⟨fun before after => ?_, hblank⟩
  by_cases hlow : c.toNat < 0x80
  · rw [lowerBetween, if_pos hlow, hascii hlow]
  · rw [lowerBetween, if_neg hlow, if_neg hdotted, if_neg hsigma, hletter]

/-- In lower case a character becomes an ASCII letter, a special form or its small form. -/
theorem lowerBetween_cases (before : List Char) (c : Char) (after : List Char) :
    (c.toNat < 0x80 ∧ lowerBetween before c after = [c.toLower]) ∨
      (lowerBetween before c after ≠ [] ∧ ∀ d ∈ lowerBetween before c after, d ∈ specialForms) ∨
      ((0x80 ≤ c.toNat ∧ c ≠ 'İ' ∧ c ≠ 'Σ') ∧ lowerBetween before c after = [lowerLetter c]) := by
  by_cases hlow : c.toNat < 0x80
  · exact .inl ⟨hlow, by rw [lowerBetween, if_pos hlow]⟩
  by_cases hdotted : c = 'İ'
  · rw [lowerBetween, if_neg hlow, if_pos hdotted]
    exact .inr (.inl (by simp [specialForms]))
  by_cases hsigma : c = 'Σ'
  · rw [lowerBetween, if_neg hlow, if_neg hdotted, if_pos hsigma]
    refine .inr (.inl ?_)
    split
    · simp [specialForms]
    · simp [specialForms]
  · rw [lowerBetween, if_neg hlow, if_neg hdotted, if_neg hsigma]
    exact .inr (.inr ⟨⟨by omega, hdotted, hsigma⟩, rfl⟩)

/-- Some character stands for one that is put in lower case. -/
theorem lowerBetween_ne_nil (before : List Char) (c : Char) (after : List Char) :
    lowerBetween before c after ≠ [] := by
  rcases lowerBetween_cases before c after with ⟨_, hform⟩ | ⟨hsome, _⟩ | ⟨_, hform⟩
  · simp [hform]
  · exact hsome
  · simp [hform]

/-- What a character becomes in lower case is in lower case, and white space only if the
character is. -/
theorem isLower_of_mem_lowerBetween {before after : List Char} {c d : Char}
    (hd : d ∈ lowerBetween before c after) :
    IsLower d ∧ (isBlank c = false → isBlank d = false) := by
  rcases lowerBetween_cases before c after with
    ⟨hlow, hform⟩ | ⟨_, hforms⟩ | ⟨⟨hhigh, hdotted, hsigma⟩, hform⟩
  · rw [hform, List.mem_singleton] at hd
    exact hd ▸ isLower_toLower hlow
  · have hspecial := isLower_specialForm (hforms d hd)
    exact ⟨hspecial.1, fun _ => hspecial.2⟩
  · rw [hform, List.mem_singleton] at hd
    subst hd
    rcases lowerLetter_cases c with ⟨hself, hnone⟩ | ⟨run, hrun, hcapital, hsmall⟩
    · rw [hself]
      exact ⟨isLower_of_not_hasCapital hhigh hdotted hsigma hnone, id⟩
    · rw [hsmall]
      have hsmall := isLower_smallForm hrun hcapital
      exact ⟨hsmall.1, fun _ => hsmall.2⟩

/-- Everything in a text in lower case is in lower case, wherever it stands. -/
theorem isLower_of_mem_lower {cs : List Char} {d : Char} (hd : d ∈ lower cs) : IsLower d := by
  suffices h : ∀ before, d ∈ lowerFrom before cs → IsLower d from h [] hd
  clear hd
  induction cs with
  | nil => exact fun _ hd => absurd hd List.not_mem_nil
  | cons c rest ih =>
    intro before hd
    rw [lowerFrom, List.mem_append] at hd
    rcases hd with hd | hd
    · exact (isLower_of_mem_lowerBetween hd).1
    · exact ih _ hd

/-- Lower case is reached in one step. -/
theorem lower_lower (cs : List Char) : lower (lower cs) = lower cs :=
  lower_eq_self fun _ hc => isLower_of_mem_lower hc

/-- A text is put in lower case once and for all. -/
theorem lowerText_lowerText (s : String) : lowerText (lowerText s) = lowerText s := by
  rw [lowerText, lowerText, String.toList_ofList, lower_lower]

/-- A text without white space around it has none in lower case. -/
theorem Trimmed.lower {cs : List Char} (h : Trimmed cs) : Trimmed (Text.lower cs) where
  first := by
    intro d hd
    cases cs with
    | nil => cases hd
    | cons c rest =>
      have hmem : d ∈ lowerBetween [] c rest := by
        rw [Text.lower, lowerFrom, List.head?_append,
          Option.or_of_isSome (List.isSome_head?.mpr (lowerBetween_ne_nil _ _ _))] at hd
        exact List.mem_of_mem_head? hd
      exact (isLower_of_mem_lowerBetween hmem).2 (h.first c rfl)
  last := by
    suffices hfrom : ∀ before, ∀ d ∈ (lowerFrom before cs).getLast?, isBlank d = false from
      hfrom []
    have hlast := h.last
    clear h
    induction cs with
    | nil => exact fun _ _ hd => absurd hd (by simp [lowerFrom])
    | cons c rest ih =>
      intro before d hd
      rw [lowerFrom, List.getLast?_append, Option.mem_def, Option.or_eq_some_iff] at hd
      rcases hd with hd | ⟨hnone, hd⟩
      · refine ih (fun e he => hlast e ?_) _ d hd
        rw [Option.mem_def] at he ⊢
        rw [List.getLast?_cons, he]
        rfl
      · have hrest : rest = [] := by
          rw [List.getLast?_eq_none_iff] at hnone
          cases rest with
          | nil => rfl
          | cons e more => simp [lowerFrom, lowerBetween_ne_nil] at hnone
        subst hrest
        exact (isLower_of_mem_lowerBetween (List.mem_of_getLast? hd)).2 (hlast c rfl)

end SitePlan.Text
