import SitePlan.Proofs.Cabling.Respelling
import SitePlan.Proofs.Xname.Templates

/-!
# Locations and numbers in rows

A location is typed as a number with letters around it. The number is the height at which a device
stands, however many zeros it is typed with, as long as it fits into 32 bits; the half of the
enclosure is the one that its own column names, or else the one that the letters after the number
name. Other columns with numbers are read as locations are.
-/

namespace SitePlan.Cabling

open Text

/-! ### Words for halves -/

/-- The text is this word, with each of its letters small or capital. -/
def InAnyCase (text word : List Char) : Prop :=
  List.Forall₂ (fun c letter => c = letter ∨ c = letter.toUpper) text word

/-- The words for a half. -/
def Side.words : Side → List String
  | .left => ["l", "left"]
  | .right => ["r", "right"]

/-- Without the space around it the text is a word for the half. -/
def Side.IsNamedBy (side : Side) (text : String) : Prop :=
  ∃ word ∈ side.words, InAnyCase (trim text.toList) word.toList

/-- What two texts say of a half, of which the first one takes precedence. -/
inductive NameHalf (column letters : String) : Option Side → Prop
  /-- The first text names a half. -/
  | column {side : Side} (hside : side.IsNamedBy column) : NameHalf column letters (some side)
  /-- The first text names none, and the second one does. -/
  | letters {side : Side} (hcolumn : ∀ other : Side, ¬other.IsNamedBy column)
      (hside : side.IsNamedBy letters) : NameHalf column letters (some side)
  /-- Neither text names a half. -/
  | neither (hcolumn : ∀ side : Side, ¬side.IsNamedBy column)
      (hletters : ∀ side : Side, ¬side.IsNamedBy letters) : NameHalf column letters none

/-- A text is a word of small letters in any case exactly if its small forms are the word. -/
theorem inAnyCase_iff {text word : List Char} (hword : ∀ c ∈ word, c.isLower = true) :
    InAnyCase text word ↔ text.map Char.toLower = word := by
  induction word generalizing text with
  | nil => simp [InAnyCase]
  | cons letter rest ih =>
    obtain ⟨hletter, hrest⟩ := List.forall_mem_cons.mp hword
    cases text with
    | nil => simp [InAnyCase]
    | cons c more =>
      rw [InAnyCase, List.forall₂_cons, ← toLower_eq_iff hletter, ← InAnyCase, ih hrest,
        List.map_cons, List.cons.injEq]

/-- A text names a half exactly if it is a word for it when it is trimmed and in lower case. -/
theorem Side.isNamedBy_iff {side : Side} {text : String} :
    side.IsNamedBy text ↔ (trimText text).toLower ∈ side.words := by
  have hletters : (side.words.all fun word => word.toList.all Char.isLower) = true := by
    cases side <;> decide
  have hsmall : ∀ word ∈ side.words, ∀ c ∈ word.toList, c.isLower = true :=
    fun word hword => List.all_eq_true.mp (List.all_eq_true.mp hletters word hword)
  have hkey : (trimText text).toLower.toList = (trim text.toList).map Char.toLower := by
    rw [← String.toList_ofList (l := trim text.toList)]
    exact String.toList_map
  have hword : ∀ word ∈ side.words,
      (InAnyCase (trim text.toList) word.toList ↔ (trimText text).toLower = word) := by
    intro word hword
    rw [inAnyCase_iff (hsmall word hword), ← hkey, String.toList_inj]
  constructor
  · rintro ⟨word, hmem, hcase⟩
    exact ((hword word hmem).mp hcase) ▸ hmem
  · intro hmem
    exact ⟨_, hmem, (hword _ hmem).mpr rfl⟩

/-- The half that is read from a text is the one that the text names. -/
theorem Side.ofWord?_eq_some_iff {side : Side} {text : String} :
    Side.ofWord? text = some side ↔ side.IsNamedBy text := by
  rw [Side.isNamedBy_iff, Side.ofWord?]
  split <;> cases side <;> simp_all [Side.words]

/-- No half is read from a text that names none. -/
theorem Side.ofWord?_eq_none_iff {text : String} :
    Side.ofWord? text = none ↔ ∀ side : Side, ¬side.IsNamedBy text := by
  simp only [Option.eq_none_iff_forall_ne_some, ne_eq, Side.ofWord?_eq_some_iff]

/-- What two texts say of a half is what is read from the first one or else from the second. -/
theorem nameHalf_iff {column letters : String} {half : Option Side} :
    NameHalf column letters half ↔
      half = (Side.ofWord? column).or (Side.ofWord? letters) := by
  constructor
  · rintro (hside | ⟨hcolumn, hside⟩ | ⟨hcolumn, hletters⟩)
    · rw [Side.ofWord?_eq_some_iff.mpr hside, Option.some_or]
    · rw [Side.ofWord?_eq_none_iff.mpr hcolumn, Option.none_or,
        Side.ofWord?_eq_some_iff.mpr hside]
    · rw [Side.ofWord?_eq_none_iff.mpr hcolumn, Option.none_or,
        Side.ofWord?_eq_none_iff.mpr hletters]
  · rintro rfl
    cases hcolumn : Side.ofWord? column with
    | some side => exact .column (Side.ofWord?_eq_some_iff.mp hcolumn)
    | none =>
      rw [Option.none_or]
      have hother := Side.ofWord?_eq_none_iff.mp hcolumn
      cases hletters : Side.ofWord? letters with
      | some side => exact .letters hother (Side.ofWord?_eq_some_iff.mp hletters)
      | none => exact .neither hother (Side.ofWord?_eq_none_iff.mp hletters)

/-! ### Numbers -/

/-- The first digits of a text are those that no digits stand in front of, up to what is no
digit. -/
theorem firstDigits_append {before digits after : List Char}
    (hbefore : ∀ c ∈ before, isDecimalDigit c = false) (hsome : digits ≠ [])
    (hdigits : ∀ c ∈ digits, isDecimalDigit c = true)
    (hafter : ∀ c ∈ after, isDecimalDigit c = false) :
    firstDigits (before ++ digits ++ after) = (digits, after) := by
  obtain ⟨d, rest, rfl⟩ := List.exists_cons_of_ne_nil hsome
  obtain ⟨hd, hrest⟩ := List.forall_mem_cons.mp hdigits
  have hstop : after.takeWhile isDecimalDigit = [] ∧ after.dropWhile isDecimalDigit = after := by
    cases after with
    | nil => exact ⟨rfl, rfl⟩
    | cons c more => simp [hafter c List.mem_cons_self]
  rw [List.append_assoc, List.cons_append, firstDigits_append_cons hbefore hd,
    List.takeWhile_append_of_pos hrest, List.dropWhile_append_of_pos hrest, hstop.1, hstop.2,
    List.append_nil]

/-- No number is read from a text without ASCII digits. -/
theorem firstNumber?_of_not_isDigit {cs : List Char} (hcs : ∀ c ∈ cs, c.isDigit = false) :
    firstNumber? cs = none := by
  rw [firstNumber?, Option.eq_none_iff_forall_ne_some]
  intro n hn
  obtain ⟨hsome, hdigits, _⟩ := uint32?_eq_some_iff.mp hn
  obtain ⟨d, hd⟩ := List.exists_mem_of_ne_nil _ hsome
  have hmem : d ∈ cs := (firstDigits_suffix cs).mem (List.mem_append_left _ hd)
  exact Bool.false_ne_true ((hcs d hmem).symm.trans (hdigits d hd))

/-! ### Columns -/

/-- The text is typed as letters, digits and letters. -/
structure IsLocation (text before digits after : List Char) : Prop where
  text_eq : text = before ++ digits ++ after
  /-- The digits follow ASCII letters only. -/
  isAlpha_before : ∀ c ∈ before, c.isAlpha = true
  digits_ne_nil : digits ≠ []
  /-- The digits are ASCII digits. -/
  isDigit_digits : ∀ c ∈ digits, c.isDigit = true
  /-- Only ASCII letters follow the digits. -/
  isAlpha_after : ∀ c ∈ after, c.isAlpha = true

instance (text before digits after : List Char) :
    Decidable (IsLocation text before digits after) :=
  decidable_of_iff (text = before ++ digits ++ after ∧ before.all Char.isAlpha = true ∧
      digits ≠ [] ∧ digits.all Char.isDigit = true ∧ after.all Char.isAlpha = true) <| by
    simp only [List.all_eq_true]
    exact ⟨fun ⟨htext, hbefore, hsome, hdigits, hafter⟩ =>
      ⟨htext, hbefore, hsome, hdigits, hafter⟩, fun h =>
      ⟨h.text_eq, h.isAlpha_before, h.digits_ne_nil, h.isDigit_digits, h.isAlpha_after⟩⟩

/-- An ASCII letter is no decimal digit. -/
theorem not_isDecimalDigit_of_isAlpha {c : Char} (hc : c.isAlpha = true) :
    isDecimalDigit c = false := by
  by_contra hdigit
  have hother := Xname.not_isAlpha_of_isDecimalDigit (by simpa using hdigit)
  rw [hc] at hother
  cases hother

/-- The digits of a location are its first ones, and the letters after them follow. -/
theorem IsLocation.firstDigits_eq {text before digits after : List Char}
    (h : IsLocation text before digits after) : firstDigits text = (digits, after) := by
  rw [h.text_eq]
  exact firstDigits_append (fun c hc => not_isDecimalDigit_of_isAlpha (h.isAlpha_before c hc))
    h.digits_ne_nil (fun c hc => isDecimalDigit_of_isDigit (h.isDigit_digits c hc))
    fun c hc => not_isDecimalDigit_of_isAlpha (h.isAlpha_after c hc)

/-- The number of a location is that of its digits, if it fits into 32 bits. -/
theorem IsLocation.firstNumber?_eq_some_iff {text before digits after : List Char}
    (h : IsLocation text before digits after) {n : UInt32} :
    firstNumber? text = some n ↔ Nat.ofDigitChars 10 digits 0 = n.toNat := by
  rw [firstNumber?, h.firstDigits_eq, uint32?_eq_some_iff, and_iff_right h.digits_ne_nil,
    and_iff_right h.isDigit_digits]

/-- The half that a location names is the one that the letters after the digits name. -/
theorem IsLocation.halfAfterNumber?_eq {text before digits after : List Char}
    (h : IsLocation text before digits after) :
    halfAfterNumber? text = Side.ofWord? (String.ofList after) := by
  rw [halfAfterNumber?, h.firstDigits_eq, leadingLetters,
    List.takeWhile_eq_self_iff.mpr h.isAlpha_after]

/-- A column is read as its first number. -/
theorem number_eq_ok_iff {row : Row} {field value : String} {n : UInt32} :
    row.number field value = .ok n ↔ firstNumber? (trim value.toList) = some n := by
  rw [← Outcome.toOption_eq_some_iff, toOption_number]

/-- A device stands at the first number of its location, on the half that its own column names or
else the letters after the number. -/
theorem position_eq_ok_iff {row : Row} {height : UInt32} {half : Option Side} :
    row.position = .ok ⟨height, half⟩ ↔
      firstNumber? (trim row.sourceLocation.toList) = some height ∧
        half = row.side?.or (halfAfterNumber? (trim row.sourceLocation.toList)) := by
  rw [← Outcome.toOption_eq_some_iff, toOption_position, Option.map_eq_some_iff]
  constructor
  · rintro ⟨_, hheight, heq⟩
    cases heq
    exact ⟨hheight, rfl⟩
  · rintro ⟨hheight, rfl⟩
    exact ⟨height, hheight, rfl⟩

/-- Where a location has no number, the fault has the trimmed location and the device's name. -/
theorem position_eq_error_of_none {row : Row}
    (hnone : firstNumber? (trim row.sourceLocation.toList) = none) :
    row.position =
      .error (.malformed "location" (trimText row.sourceLocation) row.source) := by
  rw [firstNumber?] at hnone
  simp only [Row.position, hnone, trimText]

/-- A device stands at the number in its location, if that fits into 32 bits. -/
theorem IsLocation.exists_position {row : Row} {before digits after : List Char}
    (h : IsLocation (trim row.sourceLocation.toList) before digits after)
    (hfits : Nat.ofDigitChars 10 digits 0 < UInt32.size) :
    ∃ height half, row.position = .ok ⟨height, half⟩ ∧
      height.toNat = Nat.ofDigitChars 10 digits 0 ∧
      NameHalf row.sourceSubLocation (String.ofList after) half := by
  have hvalue := UInt32.toNat_ofNat_of_lt' hfits
  have hheight := h.firstNumber?_eq_some_iff.mpr hvalue.symm
  refine ⟨_, _, position_eq_ok_iff.mpr ⟨hheight, rfl⟩, hvalue, ?_⟩
  rw [h.halfAfterNumber?_eq]
  exact nameHalf_iff.mpr rfl

/-- A location whose number does not fit into 32 bits is malformed. -/
theorem IsLocation.position_eq_error {row : Row} {before digits after : List Char}
    (h : IsLocation (trim row.sourceLocation.toList) before digits after)
    (hlarge : UInt32.size ≤ Nat.ofDigitChars 10 digits 0) :
    row.position =
      .error (.malformed "location" (trimText row.sourceLocation) row.source) := by
  refine position_eq_error_of_none (Option.eq_none_iff_forall_ne_some.mpr fun n hn => ?_)
  have hvalue := h.firstNumber?_eq_some_iff.mp hn
  have hsmall := n.toNat_lt_size
  omega

/-- How the columns of a row are decoded. Where the location is letters, digits and letters, a
number that fits into 32 bits is the height, on the half that the column for it names, or else the
letters after the digits, or else on none; and the location is malformed if the number does not
fit, as any location without a digit is. Every column with a number is read alike: a number is
read from a text exactly if it is the height of a row with the text as its location. -/
theorem position_decodesLocation (row : Row) :
    (∀ before digits after, IsLocation (trim row.sourceLocation.toList) before digits after →
      let number := Nat.ofDigitChars 10 digits 0
      (number < UInt32.size → ∃ height half, row.position = .ok ⟨height, half⟩ ∧
        height.toNat = number ∧ NameHalf row.sourceSubLocation (String.ofList after) half) ∧
      (UInt32.size ≤ number → row.position =
        .error (.malformed "location" (trimText row.sourceLocation) row.source))) ∧
    ((∀ c ∈ row.sourceLocation.toList, c.isDigit = false) → row.position =
      .error (.malformed "location" (trimText row.sourceLocation) row.source)) ∧
    ∀ (other : Row) (field text : String) (n : UInt32), other.number field text = .ok n ↔
      ∃ half, { row with sourceLocation := text }.position = .ok ⟨n, half⟩ := by
  refine ⟨fun before digits after h => ⟨h.exists_position, h.position_eq_error⟩,
    fun hnone => ?_, fun other field text n => ?_⟩
  · exact position_eq_error_of_none
      (firstNumber?_of_not_isDigit fun c hc => hnone c (mem_of_mem_trim hc))
  · simp [number_eq_ok_iff, position_eq_ok_iff]

/-- A padded height on a half that is named twice, a number that is too large by one, and a
location without a number. -/
theorem position_decodesLocation_ofRows :
    let padded : Row := { sourceLocation := " U022R", sourceSubLocation := "Left " }
    let large : Row := { source := "mn01", sourceLocation := "u4294967296" }
    let wordy : Row := { source := "nid000001", sourceLocation := "top shelf" }
    IsLocation (trim padded.sourceLocation.toList) ['U'] ['0', '2', '2'] ['R'] ∧
      padded.position = .ok ⟨22, some .left⟩ ∧
      IsLocation (trim large.sourceLocation.toList) ['u']
        ['4', '2', '9', '4', '9', '6', '7', '2', '9', '6'] [] ∧
      large.position = .error (.malformed "location" "u4294967296" "mn01") ∧
      (∀ c ∈ wordy.sourceLocation.toList, c.isDigit = false) ∧
      wordy.position = .error (.malformed "location" "top shelf" "nid000001") := by
  intro padded large wordy
  have hpadded : IsLocation (trim padded.sourceLocation.toList) ['U'] ['0', '2', '2'] ['R'] := by
    decide
  have hlarge : IsLocation (trim large.sourceLocation.toList) ['u']
      ['4', '2', '9', '4', '9', '6', '7', '2', '9', '6'] [] := by
    decide
  have hwordy : ∀ c ∈ wordy.sourceLocation.toList, c.isDigit = false := by
    have hnone : wordy.sourceLocation.toList.any Char.isDigit = false := by decide
    simpa using hnone
  refine ⟨hpadded, ?_, hlarge, ?_, hwordy, ?_⟩
  · obtain ⟨height, half, hposition, hheight, hhalf⟩ :=
      ((position_decodesLocation padded).1 _ _ _ hpadded).1 (by decide)
    obtain rfl : height = 22 := UInt32.toNat_inj.mp hheight
    rw [hposition, nameHalf_iff.mp hhalf]
    decide +kernel
  · rw [((position_decodesLocation large).1 _ _ _ hlarge).2 (by decide)]
    decide +kernel
  · rw [(position_decodesLocation wordy).2.1 hwordy]
    decide +kernel

end SitePlan.Cabling
