import SitePlan.Proofs.Text.LowerCase
import SitePlan.Text.Digit

/-!
# Digits

Decimal digits of any script are no white space and are in lower case already. A number that
is written in ASCII digits is the number of the same digits without the zeros in front.
-/

namespace SitePlan.Text

/-- The value of a decimal digit, from the run of ten that it stands in. -/
def digitValue (c : Char) : Nat :=
  match decimalZeros.find? fun first => first ≤ c.toNat && c.toNat < first + 10 with
  | some first => c.toNat - first
  | none => 0

/-- The number that decimal digits of any script denote. -/
def decimalValue (cs : List Char) : Nat :=
  cs.foldl (fun n c => 10 * n + digitValue c) 0

/-- The digits without the zeros that pad them: those that stand before another decimal
digit. -/
def unpad : List Char → List Char
  | [] => []
  | c :: rest =>
    if c = '0' ∧ rest.head?.any isDecimalDigit = true then unpad rest else c :: rest

/-- Digits without padding end the digits. -/
theorem unpad_suffix (cs : List Char) : unpad cs <:+ cs := by
  induction cs with
  | nil => exact List.suffix_refl []
  | cons c rest ih =>
    unfold unpad
    split
    · exact ih.trans (List.suffix_cons c rest)
    · exact List.suffix_refl _

/-- The last digit is no padding. -/
theorem unpad_ne_nil {cs : List Char} (hsome : cs ≠ []) : unpad cs ≠ [] := by
  induction cs with
  | nil => exact absurd rfl hsome
  | cons c rest ih =>
    unfold unpad
    split
    · next hpad =>
      apply ih
      rintro rfl
      simp at hpad
    · exact List.cons_ne_nil c rest

/-- The code points of the ASCII digits. -/
theorem isDigit_iff {c : Char} : c.isDigit = true ↔ 48 ≤ c.toNat ∧ c.toNat ≤ 57 := by
  simp only [Char.isDigit, Bool.and_eq_true, decide_eq_true_eq, UInt32.le_iff_toNat_le]
  exact Iff.rfl

/-- A decimal digit stands in one of the runs of ten. -/
theorem exists_run_of_isDecimalDigit {c : Char} (hc : isDecimalDigit c = true) :
    ∃ first ∈ decimalZeros, first ≤ c.toNat ∧ c.toNat < first + 10 := by
  simp only [isDecimalDigit, Bool.or_eq_true, List.any_eq_true, Bool.and_eq_true,
    decide_eq_true_eq, isDigit_iff] at hc
  rcases hc with hascii | hrun
  · exact ⟨0x30, by decide, by omega, by omega⟩
  · exact hrun

/-- A property of code points that every run of ten has is one of every decimal digit. -/
theorem forall_decimalDigit {P : Char → Prop}
    (hruns : ∀ first ∈ decimalZeros, ∀ i < 10, P (Char.ofNat (first + i))) {c : Char}
    (hc : isDecimalDigit c = true) : P c := by
  obtain ⟨first, hfirst, hle, hlt⟩ := exists_run_of_isDecimalDigit hc
  have hrun := hruns first hfirst (c.toNat - first) (by omega)
  rwa [Nat.add_sub_cancel' hle, Char.ofNat_toNat] at hrun

/-- No decimal digit is white space. -/
theorem not_isBlank_of_isDecimalDigit {c : Char} (hc : isDecimalDigit c = true) :
    isBlank c = false :=
  forall_decimalDigit (P := fun c => isBlank c = false) (by decide +kernel) hc

/-- No decimal digit is a capital of a run. -/
theorem not_hasCapital_of_isDecimalDigit {c : Char} (hc : isDecimalDigit c = true) :
    ∀ run ∈ capitalRuns, ¬run.HasCapital c.toNat := by
  have hapart : (decimalZeros.all fun first => capitalRuns.all fun run =>
      Nat.blt run.last first || Nat.blt (first + 9) run.first) = true := by decide +kernel
  obtain ⟨first, hfirst, hle, hlt⟩ := exists_run_of_isDecimalDigit hc
  rintro run hrun ⟨hlow, hhigh, _⟩
  have hrun := List.all_eq_true.mp (List.all_eq_true.mp hapart first hfirst) run hrun
  rw [Bool.or_eq_true, Nat.blt_eq, Nat.blt_eq] at hrun
  omega

/-- A decimal digit is in lower case. -/
theorem isLower_of_isDecimalDigit {c : Char} (hc : isDecimalDigit c = true) : IsLower c := by
  obtain ⟨hascii, hdotted, hsigma⟩ :
      (c.toNat < 0x80 → c.toLower = c) ∧ c ≠ 'İ' ∧ c ≠ 'Σ' :=
    forall_decimalDigit
      (P := fun c => (c.toNat < 0x80 → c.toLower = c) ∧ c ≠ 'İ' ∧ c ≠ 'Σ')
      (by decide +kernel) hc
  by_cases hlow : c.toNat < 0x80
  · exact fun _ _ => by rw [lowerBetween, if_pos hlow, hascii hlow]
  · exact isLower_of_not_hasCapital (by omega) hdotted hsigma
      (not_hasCapital_of_isDecimalDigit hc)

/-- The value of an ASCII digit. -/
theorem digitValue_of_isDigit {c : Char} (hc : c.isDigit = true) :
    digitValue c = c.toNat - '0'.toNat := by
  rw [isDigit_iff] at hc
  have hfirst : (decimalZeros.find? fun first => first ≤ c.toNat && c.toNat < first + 10) =
      some 0x30 := by
    rw [decimalZeros, List.find?_cons_of_pos]
    simp only [Bool.and_eq_true, decide_eq_true_eq]
    omega
  simp only [digitValue, hfirst]
  rfl

/-- ASCII digits denote the number that is read from them. -/
theorem decimalValue_eq_ofDigitChars {cs : List Char} (hall : cs.all Char.isDigit = true) :
    decimalValue cs = Nat.ofDigitChars 10 cs 0 := by
  rw [List.all_eq_true] at hall
  suffices h : ∀ n, cs.foldl (fun n c => 10 * n + digitValue c) n =
      Nat.ofDigitChars 10 cs n from h 0
  induction cs with
  | nil => simp
  | cons c rest ih =>
    intro n
    rw [List.foldl_cons, Nat.ofDigitChars_cons,
      digitValue_of_isDigit (hall c List.mem_cons_self),
      ih fun d hd => hall d (List.mem_cons_of_mem c hd)]

/-- The digit of the value of an ASCII digit is the digit. -/
theorem digitChar_of_isDigit {c : Char} (hc : c.isDigit = true) :
    Nat.digitChar (c.toNat - '0'.toNat) = c := by
  rw [isDigit_iff] at hc
  have hzero : '0'.toNat = 48 := rfl
  apply Char.toNat_inj.mp
  rw [Nat.toNat_digitChar_of_lt_ten (by omega)]
  omega

/-- ASCII digits after those of a positive number are the digits of the number that is read
on from there. -/
theorem toDigits_ofDigitChars {cs : List Char} (hall : cs.all Char.isDigit = true) {n : Nat}
    (hn : 0 < n) :
    Nat.toDigits 10 (Nat.ofDigitChars 10 cs n) = Nat.toDigits 10 n ++ cs := by
  induction cs generalizing n with
  | nil => simp
  | cons c rest ih =>
    rw [List.all_cons, Bool.and_eq_true] at hall
    have hvalue : c.toNat - '0'.toNat < 10 := by
      have hzero : '0'.toNat = 48 := rfl
      have hc := isDigit_iff.mp hall.1
      omega
    calc Nat.toDigits 10 (Nat.ofDigitChars 10 (c :: rest) n)
        = Nat.toDigits 10 (10 * n + (c.toNat - '0'.toNat)) ++ rest := by
          rw [Nat.ofDigitChars_cons, ih hall.2 (by omega)]
      _ = Nat.toDigits 10 n ++ Nat.toDigits 10 (c.toNat - '0'.toNat) ++ rest := by
          rw [Nat.toDigits_append_toDigits (by decide) hn hvalue]
      _ = Nat.toDigits 10 n ++ c :: rest := by
          rw [Nat.toDigits_of_lt_base hvalue, digitChar_of_isDigit hall.1]
          simp

/-- ASCII digits without padding are the digits of their number. -/
theorem unpad_eq_toDigits {cs : List Char} (hsome : cs ≠ [])
    (hall : cs.all Char.isDigit = true) :
    unpad cs = Nat.toDigits 10 (Nat.ofDigitChars 10 cs 0) := by
  induction cs with
  | nil => exact absurd rfl hsome
  | cons c rest ih =>
    rw [List.all_cons, Bool.and_eq_true] at hall
    have hvalue := isDigit_iff.mp hall.1
    have hzero : '0'.toNat = 48 := rfl
    by_cases hc : c = '0'
    · subst hc
      rw [Nat.ofDigitChars_cons]
      cases rest with
      | nil => simp [unpad]
      | cons d more =>
        have hd : isDecimalDigit d = true := by
          rw [List.all_cons, Bool.and_eq_true] at hall
          exact isDecimalDigit_of_isDigit hall.2.1
        rw [unpad, if_pos ⟨rfl, by simpa using hd⟩]
        simpa using ih (by simp) hall.2
    · -- The number begins with a digit that is not zero.
      have hpos : c.toNat ≠ 48 := fun h => hc (Char.toNat_inj.mp h)
      rw [unpad, if_neg (fun h => hc h.1), Nat.ofDigitChars_cons,
        toDigits_ofDigitChars hall.2 (by omega), Nat.mul_zero, Nat.zero_add,
        Nat.toDigits_of_lt_base (by omega), digitChar_of_isDigit hall.1]
      rfl

/-- What is written in decimal begins with a zero only if it is one. -/
theorem toDigits_eq_zero {n : Nat} (hzero : (Nat.toDigits 10 n).head? = some '0') :
    Nat.toDigits 10 n = ['0'] := by
  have hall : (Nat.toDigits 10 n).all Char.isDigit = true :=
    List.all_eq_true.mpr fun _ => Nat.isDigit_of_mem_toDigits (by decide) (by decide)
  have hunpadded := unpad_eq_toDigits Nat.toDigits_ne_nil hall
  rw [Nat.ofDigitChars_ten_toDigits] at hunpadded
  obtain ⟨rest, hdigits⟩ := List.head?_eq_some_iff.mp hzero
  rw [hdigits] at hunpadded hall ⊢
  cases rest with
  | nil => rfl
  | cons d more =>
    rw [List.all_cons, List.all_cons, Bool.and_eq_true, Bool.and_eq_true] at hall
    have hd : isDecimalDigit d = true := isDecimalDigit_of_isDigit hall.2.1
    rw [unpad, if_pos ⟨rfl, by simpa using hd⟩] at hunpadded
    have hlength := (unpad_suffix (d :: more)).length_le
    rw [hunpadded, List.length_cons] at hlength
    exact absurd hlength (Nat.not_succ_le_self _)

/-- What is no digit does not occur in a number. -/
theorem not_mem_toDigits {c : Char} (hc : c.isDigit = false) (n : Nat) :
    c ∉ Nat.toDigits 10 n := by
  intro hmem
  rw [Nat.isDigit_of_mem_toDigits (by decide) (by decide) hmem] at hc
  cases hc

end SitePlan.Text
