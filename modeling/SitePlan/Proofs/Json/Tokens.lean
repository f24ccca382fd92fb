import Mathlib.Data.List.TakeWhile
import Mathlib.Tactic.ByContra
import Mathlib.Tactic.SplitIfs
import SitePlan.Json.Printer
import SitePlan.Json.Token
import SitePlan.Proofs.Text.Digits

/-!
# The tokens of written JSON

What is written between the quotes of a text names the characters of the text, a number is
written in its digits, and the white space of the layout is none of the tokens. So the parts that
a JSON file is written with are read as single tokens, each with what follows it left alone.
-/

namespace SitePlan.Json

/-! ### Texts -/

/-- Four hexadecimal digits name a control character. -/
theorem readBase?_controlCode {n : Nat} (hn : n < 0x20) :
    Text.readBase? 16 ['0', '0', Nat.digitChar (n / 16), Nat.digitChar (n % 16)] = some n := by
  have hall : ∀ n < 0x20,
      Text.readBase? 16 ['0', '0', Nat.digitChar (n / 16), Nat.digitChar (n % 16)] = some n := by
    decide
  exact hall n hn

/-- A character between quotes is read as its code. -/
theorem units?_escapedChar (c : Char) {rest after : List Char} {units : List Nat}
    (hrest : units? rest = some (units, after)) :
    units? (escapedChar c ++ rest) = some (c.toNat :: units, after) := by
  unfold escapedChar
  split_ifs with hquote hbackslash hb hf hn hr ht hcontrol
  all_goals try subst c
  · simp [units?, escape?, hrest]
  · simp [units?, escape?, hrest]
  · simp [units?, escape?, hrest]
  · simp [units?, escape?, hrest]
  · simp [units?, escape?, hrest]
  · simp [units?, escape?, hrest]
  · simp [units?, escape?, hrest]
  · simp [units?, readBase?_controlCode hcontrol, hrest]
  · have hshown : ¬(c.toNat < 0x20 ∨ c = '\\') := by simp [hcontrol, hbackslash]
    rw [List.singleton_append, units?.eq_def]
    split
    · next heq => exact absurd (List.cons.inj heq).1 hquote
    · next heq => exact absurd (List.cons.inj heq).1 hbackslash
    · next heq => exact absurd (List.cons.inj heq).1 hbackslash
    · next heq =>
      obtain ⟨rfl, rfl⟩ := List.cons.inj heq
      simp [hcontrol, hbackslash, hrest]
    · next heq => cases heq

/-- A text between quotes is read as the codes of its characters. -/
theorem units?_escaped (cs rest : List Char) :
    units? (cs.flatMap escapedChar ++ '"' :: rest) = some (cs.map Char.toNat, rest) := by
  induction cs with
  | nil => simp [units?]
  | cons c cs ih =>
    rw [List.flatMap_cons, List.append_assoc, units?_escapedChar c ih, List.map_cons]

/-- No character has the code of a surrogate. -/
theorem not_isSurrogate (c : Char) : ¬(0xD800 ≤ c.toNat ∧ c.toNat < 0xE000) := by
  have hvalid : c.toNat < 0xD800 ∨ 0xDFFF < c.toNat ∧ c.toNat < 0x110000 := c.valid
  omega

/-- The codes of characters are read as the characters. -/
theorem ofUnits?_map_toNat (cs : List Char) : ofUnits? (cs.map Char.toNat) = some cs := by
  induction cs with
  | nil => rfl
  | cons c cs ih =>
    have hplain : ¬((0xD800 ≤ c.toNat && c.toNat < 0xE000) = true) := by
      simpa using not_isSurrogate c
    rw [List.map_cons, ofUnits?.eq_def]
    simp only [hplain, ih, Option.map_some, Char.ofNat_toNat, Bool.false_eq_true, if_false]

/-! ### Tokens -/

/-- White space is no token. -/
theorem tokens?_space {c : Char} (hc : isSpace c = true) (rest : List Char) :
    tokens? (c :: rest) = tokens? rest := by
  rw [tokens?, if_pos hc]

/-- The start of a line is no token. -/
theorem tokens?_newLine (depth : Nat) (rest : List Char) :
    tokens? ((newLine depth).toList ++ rest) = tokens? rest := by
  rw [newLine, String.toList_ofList, List.cons_append, tokens?_space rfl]
  induction 2 * depth with
  | zero => rfl
  | succ n ih => rw [List.replicate_succ, List.cons_append, tokens?_space rfl, ih]

/-- A punctuation mark is a token. -/
theorem tokens?_punctuation {c : Char} {token : Token} (hc : punctuation? c = some token)
    (rest : List Char) : tokens? (c :: rest) = (tokens? rest).map (token :: ·) := by
  have hspace : isSpace c = false := by
    by_contra hspace
    simp only [isSpace, Bool.not_eq_false, Bool.or_eq_true, decide_eq_true_eq] at hspace
    rcases hspace with ((rfl | rfl) | rfl) | rfl <;> cases hc
  have hquote : c ≠ '"' := by
    rintro rfl
    cases hc
  rw [tokens?, if_neg (by simp [hspace]), if_neg hquote, hc]

/-- A text between quotes is a token. -/
theorem tokens?_quoteText (s : String) (rest : List Char) :
    tokens? ((quoteText s).toList ++ rest) = (tokens? rest).map (.text (some s) :: ·) := by
  have hunits := units?_escaped s.toList rest
  have hquoted : (quoteText s).toList ++ rest =
      '"' :: (s.toList.flatMap escapedChar ++ '"' :: rest) := by
    simp [quoteText]
  rw [hquoted, tokens?, if_neg (by decide), if_pos rfl]
  split
  · next hnone =>
    rw [hunits] at hnone
    cases hnone
  · next units after hsome =>
    rw [hunits, Option.some.injEq, Prod.mk.injEq] at hsome
    obtain ⟨rfl, rfl⟩ := hsome
    rw [ofUnits?_map_toNat, Option.map_some, String.ofList_toList]

/-- A number does not go on with what follows it. -/
def EndsNumber (rest : List Char) : Prop := ∀ c ∈ rest.head?, isWordChar c = false

/-- ASCII digits are characters of numbers. -/
theorem isWordChar_of_isDigit {c : Char} (hc : c.isDigit = true) : isWordChar c = true := by
  simp [isWordChar, Char.isAlphanum, hc]

/-- A word that begins with a digit is a number. -/
theorem word?_of_isDigit {c : Char} (hc : c.isDigit = true) (cs : List Char) :
    word? (c :: cs) = number? (c :: cs) := by
  have hother : ∀ d : Char, d.isDigit = false → c ≠ d := by
    rintro d hd rfl
    rw [hc] at hd
    cases hd
  simp [word?, hother 'n' rfl, hother 't' rfl, hother 'f' rfl]

/-- A number that is written in decimal is read as it. -/
theorem number?_toDigits (n : Nat) : number? (Nat.toDigits 10 n) = some (.natural n) := by
  have hall : ∀ c ∈ Nat.toDigits 10 n, c.isDigit = true :=
    fun _ => Nat.isDigit_of_mem_toDigits (by decide) (by decide)
  have htake : (Nat.toDigits 10 n).takeWhile Char.isDigit = Nat.toDigits 10 n := by
    exact List.takeWhile_eq_self_iff.mpr hall
  have hpadding : ¬((Nat.toDigits 10 n).isEmpty ||
      ((Nat.toDigits 10 n).head? = some '0' && (Nat.toDigits 10 n).length ≠ 1)) = true := by
    simp only [Bool.or_eq_true, Bool.and_eq_true, decide_eq_true_eq, List.isEmpty_iff]
    rintro (hnone | ⟨hzero, hlonger⟩)
    · exact Nat.toDigits_ne_nil hnone
    · rw [Text.toDigits_eq_zero hzero] at hlonger
      exact hlonger rfl
  unfold number?
  split
  · next heq => exact absurd (hall '-' (by rw [heq]; exact List.mem_cons_self)) (by decide)
  · dsimp only
    rw [htake, if_neg hpadding, if_pos rfl, Text.readNat?_toDigits, Option.map_some]

/-- A number in front of something else is a token. -/
theorem tokens?_toDigits (n : Nat) {rest : List Char} (hends : EndsNumber rest) :
    tokens? (Nat.toDigits 10 n ++ rest) = (tokens? rest).map (.natural n :: ·) := by
  have hall : ∀ c ∈ Nat.toDigits 10 n, c.isDigit = true :=
    fun _ => Nat.isDigit_of_mem_toDigits (by decide) (by decide)
  obtain ⟨c, cs, hdigits⟩ := List.exists_cons_of_ne_nil (Nat.toDigits_ne_nil (b := 10) (n := n))
  have hnumber := number?_toDigits n
  rw [hdigits] at hall hnumber ⊢
  obtain ⟨hc, hcs⟩ := List.forall_mem_cons.mp hall
  have hword := isWordChar_of_isDigit hc
  have htake : (cs ++ rest).takeWhile isWordChar = cs := by
    rw [List.takeWhile_append_of_pos fun d hd => isWordChar_of_isDigit (hcs d hd)]
    cases rest with
    | nil => simp
    | cons d more => simp [hends d rfl]
  have hdrop : (cs ++ rest).dropWhile isWordChar = rest := by
    rw [List.dropWhile_append_of_pos fun d hd => isWordChar_of_isDigit (hcs d hd)]
    cases rest with
    | nil => simp
    | cons d more => simp [hends d rfl]
  have hother : ∀ d : Char, d.isDigit = false → c ≠ d := by
    rintro d hd rfl
    rw [hc] at hd
    cases hd
  have hspace : ¬isSpace c = true := by
    simp [isSpace, hother ' ' rfl, hother '\n' rfl, hother '\t' rfl, hother '\r' rfl]
  have hpunctuation : punctuation? c = none := by
    unfold punctuation?
    split <;> first | rfl | cases hc
  rw [List.cons_append, tokens?, if_neg hspace, if_neg (hother '"' rfl), hpunctuation]
  simp only [hword, if_true, htake, hdrop, word?_of_isDigit hc, hnumber, Option.bind_eq_bind,
    Option.bind_some, Option.pure_def]
  cases tokens? rest <;> rfl

end SitePlan.Json
