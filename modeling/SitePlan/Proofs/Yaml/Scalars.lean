import SitePlan.Proofs.Text.Digits
import SitePlan.Proofs.Yaml.PlainScalars
import SitePlan.Proofs.Yaml.QuotedScalars
import SitePlan.Yaml.Document

/-!
# Written scalars

A text is written plain, between single quotes or between double quotes, and a number in its
digits. Whichever way is taken, the scalar stands in one line and says what it was written for.
-/

namespace SitePlan.Yaml

/-- The ways in which a scalar is written. -/
inductive Spells : List Char → Yaml → Prop
  | plain {c : Char} {cs : List Char} (begins : beginsPlain false c cs = true)
      (dash : c = '-' → cs ≠ []) (stays : staysPlain c cs = true)
      (mark : beginsMark (c :: cs) = false) (order : c ≠ byteOrderMark) :
      Spells (c :: cs) (.plain (String.ofList (c :: cs)))
  | single {cs : List Char} (line : ∀ c ∈ cs, isBreak c = false) :
      Spells ('\x27' :: cs.flatMap doubledQuote ++ ['\x27']) (.quoted (String.ofList cs))
  | double (cs : List Char) :
      Spells ('"' :: cs.flatMap namedChar ++ ['"']) (.quoted (String.ofList cs))

/-! ### Texts -/

/-- A plain text does not stand for the absence of a value. -/
theorem not_absenceWords {s : String} (hs : reservedWords.contains s.toLower = false) :
    absenceWords.contains s = false := by
  have hall : ∀ word ∈ absenceWords, reservedWords.contains word.toLower = true := by
    decide +kernel
  by_contra habsent
  rw [Bool.not_eq_false, List.contains_iff_mem] at habsent
  rw [hall s habsent] at hs
  cases hs

/-- The text has no line breaks. -/
def IsLine (s : String) : Prop := ∀ c ∈ s.toList, isBreak c = false

instance : DecidablePred IsLine := fun s =>
  List.decidableBAll (fun c => isBreak c = false) s.toList

/-- A text in one line is written so that it is read back, and so that it is there. -/
theorem exists_spells_scalarText {s : String} (hs : IsLine s) :
    ∃ v, Spells (scalarText s).toList v ∧ text? v = some s ∧ Document.isAbsent v = false := by
  unfold scalarText
  split_ifs with hplain hwritten
  · obtain ⟨c, cs, hcs⟩ : ∃ c cs, s.toList = c :: cs := by
      cases hcs : s.toList with
      | nil => simp [isPlainText, hcs] at hplain
      | cons c cs => exact ⟨c, cs, rfl⟩
    have hsame : String.ofList (c :: cs) = s := by rw [← hcs, String.ofList_toList]
    simp only [isPlainText, hcs, Bool.and_eq_true, Bool.not_eq_true'] at hplain
    obtain ⟨hwritten, ⟨⟨⟨⟨hbegins, hdash⟩, hstays⟩, -⟩, hmark⟩, hreserved⟩ := hplain
    have horder : c ≠ byteOrderMark := by
      rintro rfl
      simp [isWritten] at hwritten
    have hspells : Spells s.toList (.plain s) := by
      rw [hcs, ← hsame]
      exact .plain hbegins (by simpa using hdash) hstays hmark horder
    exact ⟨.plain s, hspells, rfl, not_absenceWords hreserved⟩
  · have hspells : Spells (singleQuoted s).toList (.quoted s) := by
      simpa [singleQuoted] using Spells.single hs
    exact ⟨.quoted s, hspells, rfl, rfl⟩
  · have hspells : Spells (doubleQuoted s).toList (.quoted s) := by
      simpa [doubleQuoted] using Spells.double s.toList
    exact ⟨.quoted s, hspells, rfl, rfl⟩

/-- A text in one line is written in one line. -/
theorem inline_scalarText {s : String} (hs : IsLine s) :
    Inline (scalarText s).toList := by
  unfold scalarText
  split_ifs with hplain hwritten
  · simp only [isPlainText, Bool.and_eq_true, List.all_eq_true] at hplain
    exact fun c hc => ⟨hplain.1 c hc, hs c hc⟩
  · intro d hd
    simp only [List.all_eq_true] at hwritten
    simp only [singleQuoted, doubledQuote, String.toList_ofList, List.cons_append, List.mem_cons,
      List.mem_append, List.mem_flatMap, List.not_mem_nil, or_false] at hd
    rcases hd with rfl | ⟨c, hc, hd⟩ | rfl
    · decide
    · have hsame : d = c := by
        split at hd <;> simpa using hd
      rw [hsame]
      exact ⟨hwritten c hc, hs c hc⟩
    · decide
  · intro d hd
    simp only [doubleQuoted, String.toList_ofList, List.cons_append, List.mem_cons,
      List.mem_append, List.mem_flatMap, List.not_mem_nil, or_false] at hd
    rcases hd with rfl | ⟨c, -, hd⟩ | rfl
    · decide
    · exact inline_namedChar c d hd
    · decide

/-! ### Numbers -/

/-- A number is written in digits. -/
theorem isDigit_of_mem_repr {n : Nat} {c : Char} (hc : c ∈ (Nat.repr n).toList) :
    c.isDigit = true := by
  rw [Nat.toList_repr] at hc
  exact Nat.isDigit_of_mem_toDigits (by decide) (by decide) hc

/-- Digits are a plain scalar. -/
theorem spells_natural (n : Nat) : Spells (Nat.repr n).toList (.plain (Nat.repr n)) := by
  have hall : ∀ c ∈ (Nat.repr n).toList, c.isDigit = true := fun _ => isDigit_of_mem_repr
  obtain ⟨c, cs, hcs⟩ : ∃ c cs, (Nat.repr n).toList = c :: cs := by
    rw [Nat.toList_repr]
    exact List.exists_cons_of_ne_nil Nat.toDigits_ne_nil
  have hsame : Nat.repr n = String.ofList (c :: cs) := by rw [← hcs, String.ofList_toList]
  rw [hcs] at hall ⊢
  rw [hsame]
  obtain ⟨hc, hdigits⟩ := List.forall_mem_cons.mp hall
  have hother := ne_of_isDigit hc
  have hindicator : indicators.contains c = false := by
    by_contra hin
    rw [Bool.not_eq_false, List.contains_iff_mem] at hin
    exact hother c (List.mem_append_right _ hin) rfl
  have hbegins : beginsPlain false c cs = true := by
    rw [beginsPlain, isGap_eq_false_of_isDigit hc, hindicator]
    rfl
  have hmark : beginsMark (c :: cs) = false := by
    unfold beginsMark
    split
    · next heq => exact absurd (List.cons.inj heq).1 (hother '-' (by decide))
    · next heq => exact absurd (List.cons.inj heq).1 (hother '.' (by decide))
    · rfl
  exact .plain hbegins (fun hdash => absurd hdash (hother '-' (by decide)))
    (staysPlain_of_isDigit hc hdigits) hmark (hother byteOrderMark (by decide))

/-- A number is written in one line. -/
theorem inline_natural (n : Nat) : Inline (Nat.repr n).toList := by
  have hall : ∀ k < 10, isWritten (Char.ofNat (48 + k)) = true ∧
      isBreak (Char.ofNat (48 + k)) = false := by
    decide
  intro c hc
  obtain ⟨hlow, hhigh⟩ := Text.isDigit_iff.mp (isDigit_of_mem_repr hc)
  have hsame : c = Char.ofNat (48 + (c.toNat - 48)) := by
    rw [Nat.add_sub_cancel' hlow, Char.ofNat_toNat]
  rw [hsame]
  exact hall _ (by omega)

/-- The digits of a number do not stand for the absence of a value. -/
theorem not_absenceWords_repr (n : Nat) : absenceWords.contains (Nat.repr n) = false := by
  have hall : ∀ word ∈ absenceWords, word.toList.all Char.isDigit = true → word.toList = [] := by
    decide
  have hdigits : (Nat.repr n).toList.all Char.isDigit = true :=
    List.all_eq_true.mpr fun _ => isDigit_of_mem_repr
  by_contra habsent
  rw [Bool.not_eq_false, List.contains_iff_mem] at habsent
  have hnone := hall _ habsent hdigits
  rw [Nat.toList_repr] at hnone
  exact Nat.toDigits_ne_nil hnone

/-- A number is read from its digits. -/
theorem number?_repr (n : Nat) : number? (Nat.repr n) = some n := by
  have hother : ∀ c : Char, c.isDigit = false → c ∉ Nat.toDigits 10 n :=
    fun _ hc => Text.not_mem_toDigits hc n
  have hpadding : ¬((Nat.toDigits 10 n).head? = some '0' &&
      (Nat.toDigits 10 n).length ≠ 1) = true := by
    simp only [Bool.and_eq_true, decide_eq_true_eq]
    rintro ⟨hzero, hlonger⟩
    rw [Text.toDigits_eq_zero hzero] at hlonger
    exact hlonger rfl
  have hbased : basedNumber? (Nat.toDigits 10 n) = some n := by
    unfold basedNumber?
    split
    · next heq => exact absurd (by simp [heq]) (hother 'x' rfl)
    · next heq => exact absurd (by simp [heq]) (hother 'o' rfl)
    · next heq => exact absurd (by simp [heq]) (hother 'b' rfl)
    · rw [if_neg hpadding, Text.readNat?_toDigits]
  unfold number?
  split
  · next heq =>
    rw [Nat.toList_repr] at heq
    exact absurd (by simp [heq]) (hother '+' rfl)
  · rw [Nat.toList_repr, hbased]

end SitePlan.Yaml
