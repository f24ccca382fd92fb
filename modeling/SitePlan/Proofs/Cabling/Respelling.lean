import Mathlib.Logic.Relation
import SitePlan.Cabling.Device
import SitePlan.Proofs.Outcome
import SitePlan.Proofs.Text.Respelling
import SitePlan.Proofs.Xname.CanonicalForm

/-!
# Rows that are typed differently

The same sheet can be typed in many ways: with other letter case, more space around a field, more
zeros in front of a number. A row reads alike however it is typed: every reading of a column
starts with trimming it, and then looks at its lower case, at its first number, or at whether
anything is left.
-/

namespace SitePlan.Cabling

open Text

/-! ### Texts -/

/-- The second text is the first one with a change that people make without meaning anything
by it. Zeros in front of the first number are such a change in a column for numbers. -/
inductive Respells (numbered : Bool) (s t : String) : Prop
  /-- ASCII letters are in other cases. -/
  | letterCase (h : s.toList.map Char.toLower = t.toList.map Char.toLower)
  /-- There are spaces and tabs around the text. -/
  | space (before after : List Char) (hbefore : ∀ c ∈ before, c = ' ' ∨ c = '\t')
      (hafter : ∀ c ∈ after, c = ' ' ∨ c = '\t') (h : t.toList = before ++ s.toList ++ after)
  /-- There are zeros in front of the first run of digits. -/
  | zeros (hnumbered : numbered = true) (before : List Char) (count : Nat) (d : Char)
      (after : List Char)
      (hbefore : ∀ c ∈ before, isDecimalDigit c = false) (hd : isDecimalDigit d = true)
      (hs : s.toList = before ++ d :: after)
      (ht : t.toList = before ++ (List.replicate count '0' ++ d :: after))

/-- Two texts are spellings of each other: changes of spelling, made or undone one after
another, lead from the one to the other. -/
def Respelled (numbered : Bool) : String → String → Prop :=
  Relation.EqvGen (Respells numbered)

/-- What a trimmed text says whichever way it is spelled. -/
structure IgnoresSpelling {β : Type} (numbered : Bool) (f : List Char → β) : Prop where
  letterCase : ∀ cs, f (cs.map Char.toLower) = f cs
  zeros : numbered = true → ∀ {before after : List Char} {d : Char},
    (∀ c ∈ before, isDecimalDigit c = false) → isDecimalDigit d = true → ∀ count,
      f (before ++ (List.replicate count '0' ++ d :: after)) = f (before ++ d :: after)

/-- A change of spelling does not change what ignores it. -/
theorem IgnoresSpelling.eq_of_respells {β : Type} {numbered : Bool} {f : List Char → β}
    (hf : IgnoresSpelling numbered f) {s t : String} (h : Respells numbered s t) :
    f (trim s.toList) = f (trim t.toList) := by
  cases h with
  | letterCase hcase =>
    rw [← hf.letterCase (trim s.toList), ← trim_map_toLower, hcase, trim_map_toLower,
      hf.letterCase]
  | space before after hbefore hafter hspace =>
    have hblank : ∀ c : Char, c = ' ' ∨ c = '\t' → isBlank c = true := by
      rintro c (rfl | rfl) <;> rfl
    rw [hspace, trim_append_blank (fun c hc => hblank c (hbefore c hc))
      (fun c hc => hblank c (hafter c hc))]
  | zeros hnumbered before count d after hbefore hd hs ht =>
    have hleft : ∀ c ∈ before.dropWhile isBlank, isDecimalDigit c = false :=
      fun c hc => hbefore c ((List.dropWhile_suffix _).mem hc)
    rw [hs, ht, trim_zeros before hd, trim_append_cons before (not_isBlank_of_isDecimalDigit hd),
      hf.zeros hnumbered hleft hd]

/-- A reading of trimmed texts that ignores spelling is the same for two spellings. -/
theorem IgnoresSpelling.eq_of_respelled {β : Type} {numbered : Bool} {f : List Char → β}
    (hf : IgnoresSpelling numbered f) {s t : String} (h : Respelled numbered s t) :
    f (trim s.toList) = f (trim t.toList) := by
  induction h with
  | rel _ _ hchange => exact hf.eq_of_respells hchange
  | refl => rfl
  | symm _ _ _ ih => exact ih.symm
  | trans _ _ _ _ _ ihst ihtu => exact ihst.trans ihtu

/-! ### Readings of a text -/

/-- Lower case ignores how a name is spelled. -/
theorem ignoresSpelling_lower : IgnoresSpelling false lower where
  letterCase := lower_map_toLower
  zeros := nofun

/-- Whether anything is left ignores how a text is spelled. -/
theorem ignoresSpelling_isEmpty (numbered : Bool) : IgnoresSpelling numbered List.isEmpty where
  letterCase := fun cs => by rw [List.isEmpty_map]
  zeros := by
    intro _ before after d _ _ count
    rw [List.isEmpty_eq_false_iff.mpr (by simp), List.isEmpty_eq_false_iff.mpr (by simp)]

/-- The half that a word names ignores ASCII letter case. -/
theorem ofWord?_map_toLower (cs : List Char) :
    Side.ofWord? (String.ofList (cs.map Char.toLower)) = Side.ofWord? (String.ofList cs) := by
  have hlower : (trimText (String.ofList (cs.map Char.toLower))).toLower =
      (trimText (String.ofList cs)).toLower := by
    have htwice : Char.toLower ∘ Char.toLower = Char.toLower :=
      funext (apply_toLower (f := Char.toLower) (by decide))
    have hletters : ∀ s : String, s.toLower.toList = s.toList.map Char.toLower :=
      fun _ => String.toList_map
    rw [← String.toList_inj, hletters, hletters]
    simp only [trimText, String.toList_ofList, trim_map_toLower, List.map_map, htwice]
  rw [Side.ofWord?, hlower, Side.ofWord?]

/-- The half that a word names ignores how the word is spelled. -/
theorem ignoresSpelling_ofWord? :
    IgnoresSpelling false fun cs => Side.ofWord? (String.ofList cs) where
  letterCase := ofWord?_map_toLower
  zeros := nofun

/-- The first digits are the same in any letter case, which only what follows them has. -/
theorem firstDigits_map_toLower (cs : List Char) :
    firstDigits (cs.map Char.toLower) =
      ((firstDigits cs).1, (firstDigits cs).2.map Char.toLower) := by
  have hdigit : isDecimalDigit ∘ Char.toLower = isDecimalDigit := funext isDecimalDigit_toLower
  have hother : (fun c => !isDecimalDigit c) ∘ Char.toLower = fun c => !isDecimalDigit c :=
    funext fun c => congrArg not (isDecimalDigit_toLower c)
  have hkept : (firstDigits cs).1.map Char.toLower = (firstDigits cs).1 :=
    (List.map_congr_left fun c hc =>
      toLower_of_isDecimalDigit (List.mem_takeWhile_imp hc)).trans (List.map_id _)
  simp only [firstDigits, List.dropWhile_map, List.takeWhile_map, hdigit, hother, Prod.mk.injEq,
    and_true]
  exact hkept

/-- The first digits of a text begin with its first digit. -/
theorem firstDigits_append_cons {before : List Char} {d : Char}
    (hbefore : ∀ c ∈ before, isDecimalDigit c = false) (hd : isDecimalDigit d = true)
    (after : List Char) :
    firstDigits (before ++ d :: after) =
      (d :: after.takeWhile isDecimalDigit, after.dropWhile isDecimalDigit) := by
  have hnone : before.dropWhile (fun c => !isDecimalDigit c) = [] :=
    List.dropWhile_eq_nil_iff.mpr (by simpa using hbefore)
  simp [firstDigits, dropWhile_append_cons before (p := fun c => !isDecimalDigit c) (d := d)
    (by simpa using hd), hnone, hd]

/-- Zeros in front of the first digits of a text are read with them. -/
theorem firstDigits_zeros {before after : List Char} {d : Char}
    (hbefore : ∀ c ∈ before, isDecimalDigit c = false) (hd : isDecimalDigit d = true)
    (count : Nat) :
    firstDigits (before ++ (List.replicate count '0' ++ d :: after)) =
      (List.replicate count '0' ++ (firstDigits (before ++ d :: after)).1,
        (firstDigits (before ++ d :: after)).2) := by
  have hzeros : ∀ c ∈ List.replicate count '0', isDecimalDigit c = true := by
    intro c hc
    rw [List.eq_of_mem_replicate hc]
    rfl
  cases count with
  | zero => rfl
  | succ count =>
    rw [List.replicate_succ, List.forall_mem_cons] at hzeros
    rw [List.replicate_succ, List.cons_append, firstDigits_append_cons hbefore hzeros.1,
      List.takeWhile_append_of_pos hzeros.2, List.dropWhile_append_of_pos hzeros.2,
      firstDigits_append_cons hbefore hd]
    simp [hd]

/-- Zeros in front of digits do not change their number. -/
theorem uint32?_zeros (count : Nat) {digits : List Char} (hsome : digits ≠ []) :
    uint32? (List.replicate count '0' ++ digits) = uint32? digits := by
  rw [uint32?, readNat?_replicate_zero count hsome, uint32?]

/-- The number of the first digits of a text. -/
def firstNumber? (cs : List Char) : Option UInt32 := uint32? (firstDigits cs).1

/-- The first number of a text ignores how the text is spelled. -/
theorem ignoresSpelling_firstNumber? : IgnoresSpelling true firstNumber? where
  letterCase := fun cs => by rw [firstNumber?, firstDigits_map_toLower, firstNumber?]
  zeros := by
    intro _ before after d hbefore hd count
    rw [firstNumber?, firstDigits_zeros hbefore hd, firstNumber?,
      firstDigits_append_cons hbefore hd, uint32?_zeros count (List.cons_ne_nil _ _)]

/-- The half that the letters after the first digits of a text name. -/
def halfAfterNumber? (cs : List Char) : Option Side :=
  Side.ofWord? (String.ofList (leadingLetters (firstDigits cs).2))

/-- The half that a text names after its first number ignores how the text is spelled. -/
theorem ignoresSpelling_halfAfterNumber? : IgnoresSpelling true halfAfterNumber? where
  letterCase := by
    intro cs
    have hletter : Char.isAlpha ∘ Char.toLower = Char.isAlpha := funext isAlpha_toLower
    rw [halfAfterNumber?, firstDigits_map_toLower, leadingLetters, List.takeWhile_map, hletter,
      ofWord?_map_toLower, halfAfterNumber?, leadingLetters]
  zeros := by
    intro _ before after d hbefore hd count
    rw [halfAfterNumber?, firstDigits_zeros hbefore hd, halfAfterNumber?]

/-- The ordinal of the cabinet that a text names: the letter `x` in either case and ASCII
digits, of which zeros in front do not count. -/
def cabinetOrdinal? (cs : List Char) : Option UInt32 :=
  match lower cs with
  | 'x' :: digits => uint32? digits
  | _ => none

/-- ASCII digits whose number fits into 32 bits, and nothing else, are read as a number, which is
theirs. -/
theorem uint32?_eq_some_iff {digits : List Char} {n : UInt32} :
    uint32? digits = some n ↔ digits ≠ [] ∧ (∀ c ∈ digits, c.isDigit = true) ∧
      Nat.ofDigitChars 10 digits 0 = n.toNat := by
  have hfits : ∀ value : Nat, (value < UInt32.size ∧ UInt32.ofNat value = n) ↔
      value = n.toNat := by
    intro value
    constructor
    · rintro ⟨hsmall, rfl⟩
      exact (UInt32.toNat_ofNat_of_lt' hsmall).symm
    · rintro rfl
      exact ⟨n.toNat_lt, UInt32.ofNat_toNat⟩
  simp [uint32?, readNat?, Option.bind_eq_some_iff, hfits, and_assoc]

/-- Digits of a number are ASCII digits. -/
theorem isDigit_of_uint32? {digits : List Char} {n : UInt32} (h : uint32? digits = some n) :
    digits ≠ [] ∧ ∀ c ∈ digits, c.isDigit = true := by
  obtain ⟨hsome, hdigits, _⟩ := uint32?_eq_some_iff.mp h
  exact ⟨hsome, hdigits⟩

/-- Digits of other scripts are not those of an ordinal. -/
theorem cabinetOrdinal?_of_mem {cs : List Char} {d : Char} (hdecimal : isDecimalDigit d = true)
    (hother : d.isDigit = false) (hmem : d ∈ cs) : cabinetOrdinal? cs = none := by
  have hlower : d ∈ lower cs := mem_lower_of_isLower (isLower_of_isDecimalDigit hdecimal) hmem
  rw [cabinetOrdinal?, Option.eq_none_iff_forall_ne_some]
  intro n hn
  split at hn
  · next digits hdigits =>
    rw [hdigits, List.mem_cons] at hlower
    rcases hlower with rfl | hdigit
    · exact absurd hdecimal (by decide)
    · rw [(isDigit_of_uint32? hn).2 d hdigit] at hother
      cases hother
  · cases hn

/-- If a text without digits and a digit after it are the letter `x` and digits in lower case,
then the text is the letter. -/
theorem lower_eq_of_append {before rest digits : List Char} {d : Char}
    (hbefore : ∀ c ∈ before, isDecimalDigit c = false) (hd : d.isDigit = true)
    (hsplit : lower before ++ d :: rest = 'x' :: digits)
    (hdigits : ∀ c ∈ digits, c.isDigit = true) : lower before = ['x'] := by
  cases hlower : lower before with
  | nil =>
    rw [hlower, List.nil_append, List.cons.injEq] at hsplit
    obtain ⟨rfl, _⟩ := hsplit
    exact absurd hd (by decide)
  | cons c more =>
    rw [hlower, List.cons_append, List.cons.injEq] at hsplit
    obtain ⟨rfl, rfl⟩ := hsplit
    cases more with
    | nil => rfl
    | cons e more =>
      -- A digit in front of the first one would have to come from lower case.
      have he : e.isDigit = true := hdigits e (by simp)
      have hmem : e ∈ before := mem_of_isDigit_of_mem_lower he (by simp [hlower])
      simpa [isDecimalDigit_of_isDigit he] using hbefore e hmem

/-- The ordinal of a cabinet follows a single letter `x`, and zeros in front of it do not
count. -/
theorem cabinetOrdinal?_zeros {before : List Char} {d : Char}
    (hbefore : ∀ c ∈ before, isDecimalDigit c = false) (hd : d.isDigit = true)
    (after : List Char) (count : Nat) :
    cabinetOrdinal? (before ++ (List.replicate count '0' ++ d :: after)) =
      if lower before = ['x'] then uint32? (d :: lower after) else none := by
  rw [cabinetOrdinal?, lower_zeros before hd]
  split_ifs with hletter
  · rw [hletter]
    exact uint32?_zeros count (List.cons_ne_nil _ _)
  · rw [Option.eq_none_iff_forall_ne_some]
    intro n hn
    split at hn
    · next digits hsplit =>
      have hdigits := (isDigit_of_uint32? hn).2
      cases count with
      | zero => exact hletter (lower_eq_of_append hbefore hd hsplit hdigits)
      | succ count => exact hletter (lower_eq_of_append hbefore (d := '0') rfl hsplit hdigits)
    · cases hn

/-- The ordinal of a cabinet ignores how the cabinet is spelled. -/
theorem ignoresSpelling_cabinetOrdinal? : IgnoresSpelling true cabinetOrdinal? where
  letterCase := fun cs => by rw [cabinetOrdinal?, lower_map_toLower, cabinetOrdinal?]
  zeros := by
    intro _ before after d hbefore hd count
    cases hascii : d.isDigit with
    | true =>
      rw [cabinetOrdinal?_zeros hbefore hascii]
      exact (cabinetOrdinal?_zeros hbefore hascii after 0).symm
    | false =>
      rw [cabinetOrdinal?_of_mem hd hascii (by simp), cabinetOrdinal?_of_mem hd hascii (by simp)]

/-! ### Racks -/

/-- Dropping padding does not change the number of the digits after a letter. -/
theorem uint32?_stripPadding (cs : List Char) :
    uint32? (Xname.stripPadding true cs) = uint32? cs := by
  by_cases hdigits : cs ≠ [] ∧ ∀ c ∈ cs, c.isDigit = true
  · have hunpad : Xname.stripPadding true (cs ++ []) = unpad cs ++ Xname.stripPadding false [] :=
      Xname.stripPadding_append hdigits.1
        (fun c hc => isDecimalDigit_of_isDigit (hdigits.2 c hc)) rfl
    simp only [List.append_nil, Xname.stripPadding] at hunpad
    rw [hunpad, uint32?, readNat?_unpad, uint32?]
  · have hnone : ∀ ds, (∀ n, uint32? ds = some n → cs ≠ [] ∧ ∀ c ∈ cs, c.isDigit = true) →
        uint32? ds = none := fun ds hds =>
      Option.eq_none_iff_forall_ne_some.mpr fun n hn => hdigits (hds n hn)
    rw [hnone cs fun n => isDigit_of_uint32?]
    refine hnone _ fun n hn => ?_
    obtain ⟨hsome, hkept⟩ := isDigit_of_uint32? hn
    constructor
    · rintro rfl
      exact hsome rfl
    · intro c hc
      rcases Xname.eq_zero_or_mem_stripPadding hc true with rfl | hmem
      · rfl
      · exact hkept c hmem

/-- The letter `x` and ASCII digits are the location name of a cabinet. -/
theorem parse?_cabinet {s : String} {digits : List Char} (hs : s.toList = 'x' :: digits)
    (hsome : digits ≠ []) (hdigits : ∀ c ∈ digits, c.isDigit = true) :
    Xname.parse? s = some (.cabinet, [⟨'x', digits⟩]) := by
  have hwritten : ∀ segment ∈ [(⟨'x', digits⟩ : Xname.Segment)], segment.WellWritten := by
    intro segment hmem
    rw [List.mem_singleton] at hmem
    subst hmem
    exact ⟨(by decide : isDecimalDigit 'x' = false), hsome,
      fun c hc => isDecimalDigit_of_isDigit (hdigits c hc)⟩
  have hrender : Xname.render [⟨'x', digits⟩] = s := by
    rw [← String.toList_inj, hs]
    simp [Xname.render, Xname.Segment.render]
  rw [← hrender, Xname.parse?_eq_some_iff]
  exact ⟨Xname.segments?_render hwritten, Xname.kindOfSegments?_eq_some rfl (by decide)⟩

/-- The location names of cabinets are the letter `x` and the digits of a number. -/
theorem ordinalsOfKind_cabinet_eq_ok {s : String} {ns : List UInt32} :
    Xname.ordinalsOfKind .cabinet s = .ok ns ↔
      ∃ digits n, s.toList = 'x' :: digits ∧ uint32? digits = some n ∧ ns = [n] := by
  have hroot : Xname.Kind.cabinet ≠ .system := by decide
  rw [Xname.ordinalsOfKind_eq_ok, Xname.kind?_eq_some_iff]
  constructor
  · rintro ⟨⟨segments, hparse⟩, hordinals⟩
    obtain ⟨hsegments, hkind⟩ := Xname.parse?_eq_some_iff.mp hparse
    have hletters : segments.map Xname.Segment.letter = ['x'] :=
      Xname.letters_of_kindOfSegments? hkind
    obtain ⟨⟨letter, digits⟩, rfl, rfl⟩ := List.map_eq_singleton_iff.mp hletters
    rw [Xname.ordinals_of_parse? hparse hroot, Xname.ordinalsOf_eq_ok] at hordinals
    obtain ⟨n, _, hn, hnone, rfl⟩ := List.forall₂_cons_left_iff.mp hordinals
    rw [List.forall₂_nil_left_iff] at hnone
    refine ⟨digits, n, ?_, hn, by rw [hnone]⟩
    rw [← Xname.render_of_segments? hsegments]
    simp [Xname.render, Xname.Segment.render]
  · rintro ⟨digits, n, hs, hn, rfl⟩
    obtain ⟨hsome, hdigits⟩ := isDigit_of_uint32? hn
    have hparse := parse?_cabinet hs hsome hdigits
    refine ⟨⟨_, hparse⟩, ?_⟩
    rw [Xname.ordinals_of_parse? hparse hroot, Xname.ordinalsOf_eq_ok]
    exact .cons hn .nil

/-- A rack is read exactly if the column names one cabinet. -/
theorem rack_eq_ok {row : Row} {field value : String} {n : UInt32} :
    row.rack field value = .ok n ↔
      Xname.ordinalsOfKind .cabinet (Xname.normalize (nameKey value)) = .ok [n] := by
  unfold Row.rack
  split
  · next hread => simp [hread]
  · next hread => simp [hread]
  · next hmany hread =>
    simp only [hread, reduceCtorEq, Except.ok.injEq, false_iff]
    exact hmany n

/-- A column names a cabinet by its ordinal. -/
theorem toOption_rack (row : Row) (field value : String) :
    (row.rack field value).toOption = cabinetOrdinal? (trim value.toList) := by
  have hname : Xname.normalize (nameKey value) =
      String.ofList (Xname.stripPadding false (lower (trim value.toList))) := by
    rw [Xname.normalize, nameKey, lowerText, trimText, String.toList_ofList,
      String.toList_ofList, Xname.canonical, (trimmed_trim _).lower.trim_eq_self, lower_lower]
  refine Option.ext fun n => ?_
  rw [Outcome.toOption_eq_some_iff, rack_eq_ok, hname, ordinalsOfKind_cabinet_eq_ok,
    String.toList_ofList, cabinetOrdinal?]
  cases lower (trim value.toList) with
  | nil => simp [Xname.stripPadding]
  | cons c rest =>
    by_cases hx : c = 'x'
    · subst hx
      have hstrip : Xname.stripPadding false ('x' :: rest) =
          'x' :: Xname.stripPadding true rest := by
        simp [Xname.stripPadding, show Xname.isLetter 'x' = true by decide]
      rw [hstrip]
      simp [← uint32?_stripPadding rest]
    · simp [Xname.stripPadding, hx]

/-! ### Rows -/

/-- The second row is the first one typed differently: any column may be spelled in another
way, with zeros in front where the column has a number. -/
structure Row.Respelled (row row' : Row) : Prop where
  source : Cabling.Respelled false row.source row'.source
  sourceRack : Cabling.Respelled true row.sourceRack row'.sourceRack
  sourceLocation : Cabling.Respelled true row.sourceLocation row'.sourceLocation
  sourceSubLocation : Cabling.Respelled false row.sourceSubLocation row'.sourceSubLocation
  sourceParent : Cabling.Respelled false row.sourceParent row'.sourceParent
  destinationRack : Cabling.Respelled true row.destinationRack row'.destinationRack
  destinationLocation : Cabling.Respelled true row.destinationLocation row'.destinationLocation
  destinationConnector :
    Cabling.Respelled true row.destinationConnector row'.destinationConnector

/-- Both rows say the same, up to the words of a fault. -/
structure Row.ReadsAlike (row row' : Row) : Prop where
  key : row.key = row'.key
  hasParent : row.hasParent = row'.hasParent
  parentKey : row.parentKey = row'.parentKey
  isCabled : row.isCabled = row'.isCabled
  side : row.side? = row'.side?
  position : row.position.toOption = row'.position.toOption
  rack : ∀ field, (row.rack field row.sourceRack).toOption =
    (row'.rack field row'.sourceRack).toOption
  destinationRack : ∀ field, (row.rack field row.destinationRack).toOption =
    (row'.rack field row'.destinationRack).toOption
  destinationLocation : ∀ field, (row.number field row.destinationLocation).toOption =
    (row'.number field row'.destinationLocation).toOption
  destinationConnector : ∀ field, (row.number field row.destinationConnector).toOption =
    (row'.number field row'.destinationConnector).toOption

/-- A number is the first one of its column. -/
theorem toOption_number (row : Row) (field value : String) :
    (row.number field value).toOption = firstNumber? (trim value.toList) := by
  simp only [Row.number, firstNumber?]
  cases uint32? (firstDigits (trim value.toList)).1 <;> rfl

/-- A device stands at the first number of its column, on the half that is named in the column
for it or else after the number. -/
theorem toOption_position (row : Row) :
    row.position.toOption = (firstNumber? (trim row.sourceLocation.toList)).map fun height =>
      ⟨height, row.side?.or (halfAfterNumber? (trim row.sourceLocation.toList))⟩ := by
  simp only [Row.position, firstNumber?, halfAfterNumber?]
  cases uint32? (firstDigits (trim row.sourceLocation.toList)).1 <;> rfl

/-- Words that are spelled differently name the same half. -/
theorem ofWord?_eq_of_respelled {s t : String} (h : Cabling.Respelled false s t) :
    Side.ofWord? s = Side.ofWord? t := by
  have htrim : ∀ s : String, Side.ofWord? (String.ofList (trim s.toList)) = Side.ofWord? s := by
    intro s
    rw [Side.ofWord?, trimText, String.toList_ofList, (trimmed_trim _).trim_eq_self, ← trimText,
      Side.ofWord?]
  rw [← htrim s, ← htrim t, ignoresSpelling_ofWord?.eq_of_respelled h]

/-- Names that are spelled differently are one name. -/
theorem nameKey_eq_of_respelled {s t : String} (h : Respelled false s t) :
    nameKey s = nameKey t := by
  simp only [nameKey, lowerText, trimText, String.toList_ofList,
    ignoresSpelling_lower.eq_of_respelled h]

/-- A column is empty in every spelling or in none. -/
theorem trimText_eq_empty_iff_of_respelled {numbered : Bool} {s t : String}
    (h : Respelled numbered s t) : trimText s = "" ↔ trimText t = "" := by
  have hempty : ∀ s : String, trimText s = "" ↔ (trim s.toList).isEmpty = true := by
    intro s
    rw [trimText, String.ofList_eq_empty_iff, List.isEmpty_iff]
  rw [hempty, hempty, (ignoresSpelling_isEmpty numbered).eq_of_respelled h]

/-- A row that is typed differently reads alike. -/
theorem Row.Respelled.readsAlike {row row' : Row} (h : row.Respelled row') :
    row.ReadsAlike row' where
  key := nameKey_eq_of_respelled h.source
  hasParent := by
    simp only [Row.hasParent, ne_eq, trimText_eq_empty_iff_of_respelled h.sourceParent]
  parentKey := nameKey_eq_of_respelled h.sourceParent
  isCabled := by
    simp only [Row.isCabled, ne_eq, trimText_eq_empty_iff_of_respelled h.destinationConnector]
  side := ofWord?_eq_of_respelled h.sourceSubLocation
  position := by
    rw [toOption_position, toOption_position, Row.side?, Row.side?,
      ofWord?_eq_of_respelled h.sourceSubLocation,
      ignoresSpelling_firstNumber?.eq_of_respelled h.sourceLocation,
      ignoresSpelling_halfAfterNumber?.eq_of_respelled h.sourceLocation]
  rack := fun field => by
    rw [toOption_rack, toOption_rack, ignoresSpelling_cabinetOrdinal?.eq_of_respelled h.sourceRack]
  destinationRack := fun field => by
    rw [toOption_rack, toOption_rack,
      ignoresSpelling_cabinetOrdinal?.eq_of_respelled h.destinationRack]
  destinationLocation := fun field => by
    rw [toOption_number, toOption_number,
      ignoresSpelling_firstNumber?.eq_of_respelled h.destinationLocation]
  destinationConnector := fun field => by
    rw [toOption_number, toOption_number,
      ignoresSpelling_firstNumber?.eq_of_respelled h.destinationConnector]

/-! ### Devices -/

variable {row row' : Row}

/-- Rows that read alike describe the same node. -/
theorem Row.ReadsAlike.nodeKind (h : row.ReadsAlike row') (config : ApplicationNode.Config) :
    (row.nodeKind config).toOption = (row'.nodeKind config).toOption := by
  unfold Row.nodeKind
  rw [h.key]
  dsimp only
  cases management? row'.key.toList with
  | some named =>
    obtain ⟨role, digits⟩ := named
    dsimp only
    cases uint32? digits <;> simp only [Except.toOption]
  | none =>
    dsimp only
    by_cases hcompute : isCompute row'.key.toList = true
    · rw [if_pos hcompute, if_pos hcompute]
      cases uint64? (lastDigits row'.key.toList) <;> simp only [Except.toOption]
    · rw [if_neg hcompute, if_neg hcompute]

/-- Rows that read alike describe the same device. -/
theorem Row.ReadsAlike.device (h : row.ReadsAlike row') (config : ApplicationNode.Config) :
    (row.device config).toOption = (row'.device config).toOption := by
  unfold Row.device
  rw [h.key]
  dsimp only
  by_cases hrouter : isRouterBmc row'.key.toList = true
  · rw [if_pos hrouter, if_pos hrouter, Outcome.toOption_map, Outcome.toOption_map, h.position]
  rw [if_neg hrouter, if_neg hrouter]
  cases pduDigits? row'.key.toList with
  | some digits =>
    dsimp only
    cases uint32? digits <;> simp only [Except.toOption]
  | none =>
    split_ifs
    · rfl
    · rfl
    · simp only [Outcome.toOption_map, h.nodeKind config]

end SitePlan.Cabling
