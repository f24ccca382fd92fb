import Mathlib.Algebra.GroupWithZero.Nat
import Mathlib.Tactic.SplitIfs
import SitePlan.Proofs.Yaml.Places

/-!
# Quoted scalars

Between quotes every character is written as a piece of text: as itself, as two quotes, as a
backslash with a letter, or as a backslash with the digits of its code. A piece is read as its
character, so a text is read up to the quote that ends it.
-/

namespace SitePlan.Yaml

/-! ### Pieces -/

/-- Between quotes, a piece is read as these characters. White space is kept apart from the text
before it until a word follows. -/
def StandsFor (isDouble : Bool) (piece cs : List Char) : Prop :=
  ∀ written gap rest (place : Place), (∀ d ∈ gap, isBreak d = false) → place.column ≠ 0 →
    ∃ written' gap', gap' ++ written' = cs.reverse ++ gap ++ written ∧
      (∀ d ∈ gap', isBreak d = false) ∧ (place.afterAll piece).column ≠ 0 ∧
      quotedFrom isDouble .text false written gap place (piece ++ rest) =
        quotedFrom isDouble .text false written' gap' (place.afterAll piece) rest

/-- Pieces that follow one another stand for their characters together. -/
theorem StandsFor.append {isDouble : Bool} {piece more cs ds : List Char}
    (hpiece : StandsFor isDouble piece cs) (hmore : StandsFor isDouble more ds) :
    StandsFor isDouble (piece ++ more) (cs ++ ds) := by
  intro written gap rest place hgap hcolumn
  obtain ⟨written₁, gap₁, hsame₁, hgap₁, hcolumn₁, hread₁⟩ :=
    hpiece written gap (more ++ rest) place hgap hcolumn
  obtain ⟨written₂, gap₂, hsame₂, hgap₂, hcolumn₂, hread₂⟩ :=
    hmore written₁ gap₁ rest (place.afterAll piece) hgap₁ hcolumn₁
  refine ⟨written₂, gap₂, ?_, hgap₂, ?_, ?_⟩
  · rw [hsame₂, List.append_assoc, hsame₁]
    simp
  · rwa [Place.afterAll_append]
  · rw [List.append_assoc, hread₁, hread₂, Place.afterAll_append]

/-- A text stands for itself if the piece of each character stands for that character. -/
theorem StandsFor.flatMap {isDouble : Bool} {piece : Char → List Char} {cs : List Char}
    (hpiece : ∀ c ∈ cs, StandsFor isDouble (piece c) [c]) :
    StandsFor isDouble (cs.flatMap piece) cs := by
  induction cs with
  | nil => exact fun written gap rest place hgap hcolumn => ⟨written, gap, rfl, hgap, hcolumn, rfl⟩
  | cons c cs ih =>
    obtain ⟨hc, hcs⟩ := List.forall_mem_cons.mp hpiece
    exact hc.append (ih hcs)

section

variable {written gap rest : List Char} {place : Place}

/-- A single quote may be the first of two. -/
theorem quotedFrom_singleQuote (hgap : ∀ d ∈ gap, isBreak d = false) (hcolumn : place.column ≠ 0) :
    quotedFrom false .text false written gap place ('\x27' :: rest) =
      quotedFrom false .quote false (gap ++ written) [] (place.after '\x27') rest := by
  have hword : isGap '\x27' = false := rfl
  rw [quotedFrom.eq_def]
  simp [hword, hcolumn, reverse_fold_reverse hgap]

/-- A backslash begins an escape. -/
theorem quotedFrom_backslash (hgap : ∀ d ∈ gap, isBreak d = false) (hcolumn : place.column ≠ 0) :
    quotedFrom true .text false written gap place ('\\' :: rest) =
      quotedFrom true .escape false (gap ++ written) [] (place.after '\\') rest := by
  have hword : isGap '\\' = false := rfl
  rw [quotedFrom.eq_def]
  simp [hword, hcolumn, reverse_fold_reverse hgap]

/-- A double quote ends its text. -/
theorem quotedFrom_doubleQuote (hgap : ∀ d ∈ gap, isBreak d = false) (hcolumn : place.column ≠ 0) :
    quotedFrom true .text false written gap place ('"' :: rest) =
      some ⟨.quoted (String.ofList (gap ++ written).reverse), place.after '"', rest, false⟩ := by
  have hword : isGap '"' = false := rfl
  rw [quotedFrom.eq_def]
  simp [hword, hcolumn, reverse_fold_reverse hgap]

/-- A single quote that is by itself ends its text. -/
theorem quotedFrom_closingQuote (hrest : rest.head? ≠ some '\x27')
    (hgap : ∀ d ∈ gap, isBreak d = false) (hcolumn : place.column ≠ 0) :
    quotedFrom false .text false written gap place ('\x27' :: rest) =
      some ⟨.quoted (String.ofList (gap ++ written).reverse), place.after '\x27', rest,
        false⟩ := by
  rw [quotedFrom_singleQuote hgap hcolumn]
  cases rest with
  | nil => rfl
  | cons c rest =>
    have hc : c ≠ '\x27' := by simpa using hrest
    rw [quotedFrom.eq_def]
    simp [hc]

end

/-- A character that is no mark stands for itself. -/
theorem standsFor_char {isDouble : Bool} {c : Char} (hc : isBreak c = false)
    (hquote : c ≠ if isDouble then '"' else '\x27') (hbackslash : isDouble = true → c ≠ '\\') :
    StandsFor isDouble [c] [c] := by
  intro written gap rest place hgap hcolumn
  have hafter : (place.after c).column ≠ 0 := place.column_after_ne_zero hc
  by_cases hspace : isGap c = true
  · refine ⟨written, c :: gap, rfl, List.forall_mem_cons.mpr ⟨hc, hgap⟩, hafter, ?_⟩
    rw [List.singleton_append, quotedFrom.eq_def]
    simp [hspace]
  · refine ⟨c :: gap ++ written, [], rfl, by simp, hafter, ?_⟩
    rw [List.singleton_append, quotedFrom.eq_def]
    cases isDouble <;> simp_all [reverse_fold_reverse]

/-- Two single quotes stand for one. -/
theorem standsFor_quotes : StandsFor false ['\x27', '\x27'] ['\x27'] := by
  intro written gap rest place hgap hcolumn
  refine ⟨'\x27' :: gap ++ written, [], rfl, by simp, ?_, ?_⟩
  · rw [Place.column_afterAll _ (by simp [isBreak])]
    simp
  · rw [List.cons_append, quotedFrom_singleQuote hgap hcolumn, List.singleton_append,
      quotedFrom.eq_def]
    simp

/-- A letter after a backslash stands for the character that it names. -/
theorem standsFor_escape {letter c : Char} (hletter : escape? letter = some c)
    (hbreak : isBreak letter = false) : StandsFor true ['\\', letter] [c] := by
  intro written gap rest place hgap hcolumn
  have hbreaks : ∀ d ∈ ['\\', letter], isBreak d = false :=
    List.forall_mem_cons.mpr ⟨rfl, List.forall_mem_singleton.mpr hbreak⟩
  refine ⟨c :: gap ++ written, [], rfl, by simp, ?_, ?_⟩
  · rw [Place.column_afterAll _ hbreaks]
    simp
  · rw [List.cons_append, quotedFrom_backslash hgap hcolumn, List.singleton_append,
      quotedFrom.eq_def]
    simp [hletter, hbreak]

/-! ### Codes -/

/-- A hexadecimal digit as it is written in a code. -/
def codeDigit (n : Nat) : Char := (Nat.digitChar n).toUpper

/-- The digits of a code are read as their values. -/
theorem hexDigit?_codeDigit {n : Nat} (hn : n < 16) : Text.hexDigit? (codeDigit n) = some n := by
  have hall : ∀ n < 16, Text.hexDigit? (codeDigit n) = some n := by decide
  exact hall n hn

/-- The last digit of a code says what the others leave. -/
theorem codeDigits_succ {width : Nat} (hwidth : 0 < width) (n : Nat) :
    codeDigits (width + 1) n = codeDigits width (n / 16) ++ [codeDigit (n % 16)] := by
  by_cases hn : n < 16
  · have hzero : codeDigits width 0 = List.replicate width '0' := by
      obtain ⟨width, rfl⟩ := Nat.exists_eq_add_one.mpr hwidth
      rw [List.replicate_succ']
      rfl
    rw [codeDigits, Nat.toDigits_of_lt_base hn, Nat.div_eq_of_lt hn, Nat.mod_eq_of_lt hn, hzero]
    rfl
  · rw [codeDigits, codeDigits, Nat.toDigits_of_base_le (by omega) (by omega)]
    simp [codeDigit]

/-- One digit says a small code. -/
theorem codeDigits_one {n : Nat} (hn : n < 16) : codeDigits 1 n = [codeDigit n] := by
  rw [codeDigits, Nat.toDigits_of_lt_base hn]
  rfl

/-- A digit of a code that is not the last one is added to those before it. -/
theorem quotedFrom_codeDigit {n value : Nat} (hn : n < 16) (left : Nat)
    (written rest : List Char) (place : Place) :
    quotedFrom true (.code (left + 2) value) false written [] place (codeDigit n :: rest) =
      quotedFrom true (.code (left + 1) (16 * value + n)) false written []
        (place.after (codeDigit n)) rest := by
  rw [quotedFrom.eq_def]
  simp [hexDigit?_codeDigit hn]

/-- Digits of a code are read one after another. -/
theorem quotedFrom_codeDigits {width n : Nat} (hn : n < 16 ^ (width + 1)) (left : Nat)
    (written rest : List Char) (place : Place) :
    quotedFrom true (.code (width + 1 + (left + 1)) 0) false written [] place
        (codeDigits (width + 1) n ++ rest) =
      quotedFrom true (.code (left + 1) n) false written []
        (place.afterAll (codeDigits (width + 1) n)) rest := by
  induction width generalizing n left rest with
  | zero =>
    have hdigit : n < 16 := by simpa using hn
    have hcount : 0 + 1 + (left + 1) = left + 2 := by omega
    rw [codeDigits_one hdigit, hcount, List.singleton_append, quotedFrom_codeDigit hdigit]
    simp
  | succ width ih =>
    have hfront : n / 16 < 16 ^ (width + 1) := by
      rw [Nat.pow_succ] at hn
      omega
    have hlast : n % 16 < 16 := Nat.mod_lt n (by omega)
    have hvalue : 16 * (n / 16) + n % 16 = n := Nat.div_add_mod n 16
    have hcount : width + 1 + 1 + (left + 1) = width + 1 + (left + 1 + 1) := by omega
    rw [codeDigits_succ (by omega), hcount, List.append_assoc, ih hfront, List.singleton_append,
      quotedFrom_codeDigit hlast, hvalue]
    simp

/-- A code is made of digits. -/
theorem exists_codeDigit {width n : Nat} (hn : n < 16 ^ (width + 1)) {d : Char}
    (hd : d ∈ codeDigits (width + 1) n) : ∃ m < 16, d = codeDigit m := by
  induction width generalizing n with
  | zero =>
    have hdigit : n < 16 := by simpa using hn
    rw [codeDigits_one hdigit, List.mem_singleton] at hd
    exact ⟨n, hdigit, hd⟩
  | succ width ih =>
    have hfront : n / 16 < 16 ^ (width + 1) := by
      rw [Nat.pow_succ] at hn
      omega
    rw [codeDigits_succ (by omega), List.mem_append, List.mem_singleton] at hd
    rcases hd with hd | rfl
    · exact ih hfront hd
    · exact ⟨n % 16, Nat.mod_lt n (by omega), rfl⟩

/-- The digits of a code are written as themselves. -/
theorem inline_codeDigits {width n : Nat} (hn : n < 16 ^ (width + 1)) :
    Inline (codeDigits (width + 1) n) := by
  have hall : ∀ m < 16, isWritten (codeDigit m) = true ∧ isBreak (codeDigit m) = false := by
    decide
  intro d hd
  obtain ⟨m, hm, rfl⟩ := exists_codeDigit hn hd
  exact hall m hm

/-- Eight digits are enough for every code. -/
theorem toNat_lt (c : Char) : c.toNat < 16 ^ 8 := by
  have hvalid : c.toNat < 0xD800 ∨ 0xDFFF < c.toNat ∧ c.toNat < 0x110000 := c.valid
  omega

/-- A code stands for the character that has it. -/
theorem standsFor_code {marker c : Char} {width : Nat} (hmarker : escape? marker = none)
    (hlength : codeLength? marker = some (width + 2)) (hbreak : isBreak marker = false)
    (hc : c.toNat < 16 ^ (width + 2)) :
    StandsFor true ('\\' :: marker :: codeDigits (width + 2) c.toNat) [c] := by
  intro written gap rest place hgap hcolumn
  have hdigits : ∀ d ∈ codeDigits (width + 2) c.toNat, isBreak d = false :=
    fun d hd => (inline_codeDigits hc d hd).2
  have hbreaks : ∀ d ∈ '\\' :: marker :: codeDigits (width + 2) c.toNat, isBreak d = false :=
    List.forall_mem_cons.mpr ⟨rfl, List.forall_mem_cons.mpr ⟨hbreak, hdigits⟩⟩
  have hfront : c.toNat / 16 < 16 ^ (width + 1) := by
    rw [Nat.pow_succ] at hc
    omega
  have hlast : c.toNat % 16 < 16 := Nat.mod_lt _ (by omega)
  have hvalue : 16 * (c.toNat / 16) + c.toNat % 16 = c.toNat := Nat.div_add_mod _ 16
  have hvalid : c.toNat.isValidChar := c.valid
  have hchar : char? c.toNat = some c := by
    rw [char?, if_pos hvalid, Char.ofNat_toNat]
  refine ⟨c :: gap ++ written, [], rfl, by simp, ?_, ?_⟩
  · rw [Place.column_afterAll _ hbreaks, List.length_cons]
    omega
  · rw [List.cons_append, quotedFrom_backslash hgap hcolumn, List.cons_append,
      quotedFrom.eq_def]
    simp only [hbreak, hmarker, hlength, Bool.false_eq_true, if_false]
    rw [codeDigits_succ (by omega), List.append_assoc, quotedFrom_codeDigits hfront 0,
      List.singleton_append, quotedFrom.eq_def]
    simp [hexDigit?_codeDigit hlast, hvalue, hchar]

/-! ### Texts -/

/-- A character is read from the way in which it is written between double quotes. -/
theorem standsFor_namedChar (c : Char) : StandsFor true (namedChar c) [c] := by
  unfold namedChar
  split
  · next hc =>
    simp only [Bool.and_eq_true, Bool.not_eq_true', decide_eq_true_eq] at hc
    obtain ⟨⟨⟨-, hbreak⟩, hquote⟩, hbackslash⟩ := hc
    exact standsFor_char hbreak hquote fun _ => hbackslash
  · split
    · next letter hletter =>
      have hnames : Inline nameLetters := by decide
      exact standsFor_escape (by simpa using List.find?_some hletter)
        (hnames letter (List.mem_of_find?_eq_some hletter)).2
    · split_ifs with hshort hlong
      · exact standsFor_code rfl rfl rfl (by omega)
      · exact standsFor_code rfl rfl rfl (by omega)
      · exact standsFor_code rfl rfl rfl (toNat_lt c)

/-- A character is named by characters that are written as themselves. -/
theorem inline_namedChar (c : Char) : Inline (namedChar c) := by
  have hmarks : Inline ['\\', 'x', 'u', 'U'] := by decide
  have hbackslash := hmarks '\\' (by decide)
  have hcode : ∀ marker ∈ ['x', 'u', 'U'], ∀ {width : Nat}, c.toNat < 16 ^ (width + 1) →
      Inline ('\\' :: marker :: codeDigits (width + 1) c.toNat) := fun marker hmarker _ hn =>
    List.forall_mem_cons.mpr ⟨hbackslash, List.forall_mem_cons.mpr
      ⟨hmarks marker (List.mem_cons_of_mem _ hmarker), inline_codeDigits hn⟩⟩
  unfold namedChar
  split
  · next hc =>
    simp only [Bool.and_eq_true, Bool.not_eq_true'] at hc
    exact List.forall_mem_singleton.mpr hc.1.1
  · split
    · next letter hletter =>
      have hnames : Inline nameLetters := by decide
      exact List.forall_mem_cons.mpr ⟨hbackslash,
        List.forall_mem_singleton.mpr (hnames letter (List.mem_of_find?_eq_some hletter))⟩
    · split_ifs with hshort hlong
      · exact hcode 'x' (by decide) (by omega)
      · exact hcode 'u' (by decide) (by omega)
      · exact hcode 'U' (by decide) (toNat_lt c)

/-- A character is read from the way in which it is written between single quotes. -/
theorem standsFor_doubledQuote {c : Char} (hc : isBreak c = false) :
    StandsFor false (doubledQuote c) [c] := by
  unfold doubledQuote
  split
  · next hquote =>
    subst hquote
    exact standsFor_quotes
  · next hquote => exact standsFor_char hc hquote (by simp)

/-- A text between single quotes is read up to the second one. -/
theorem quotedFrom_single {cs tail : List Char} (place : Place)
    (hcs : ∀ c ∈ cs, isBreak c = false) (htail : tail.head? ≠ some '\x27') :
    quotedFrom false .text false [] [] (place.after '\x27')
        (cs.flatMap doubledQuote ++ '\x27' :: tail) =
      some ⟨.quoted (String.ofList cs),
        place.afterAll ('\x27' :: cs.flatMap doubledQuote ++ ['\x27']), tail, false⟩ := by
  have hpieces : StandsFor false (cs.flatMap doubledQuote) cs :=
    .flatMap fun c hc => standsFor_doubledQuote (hcs c hc)
  have hcolumn : (place.after '\x27').column ≠ 0 := place.column_after_ne_zero rfl
  obtain ⟨written, gap, hsame, hgap, hafter, hread⟩ :=
    hpieces [] [] ('\x27' :: tail) _ (by simp) hcolumn
  rw [hread, quotedFrom_closingQuote htail hgap hafter, hsame]
  simp

/-- A text between double quotes is read up to the second one. -/
theorem quotedFrom_double (cs tail : List Char) (place : Place) :
    quotedFrom true .text false [] [] (place.after '"') (cs.flatMap namedChar ++ '"' :: tail) =
      some ⟨.quoted (String.ofList cs),
        place.afterAll ('"' :: cs.flatMap namedChar ++ ['"']), tail, false⟩ := by
  have hpieces : StandsFor true (cs.flatMap namedChar) cs :=
    .flatMap fun c _ => standsFor_namedChar c
  have hcolumn : (place.after '"').column ≠ 0 := place.column_after_ne_zero rfl
  obtain ⟨written, gap, hsame, hgap, hafter, hread⟩ :=
    hpieces [] [] ('"' :: tail) _ (by simp) hcolumn
  rw [hread, quotedFrom_doubleQuote hgap hafter, hsame]
  simp

end SitePlan.Yaml
