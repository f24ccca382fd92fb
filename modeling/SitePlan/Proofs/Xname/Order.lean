import Mathlib.Algebra.Order.Ring.Nat
import SitePlan.Proofs.Xname.CanonicalForm
import SitePlan.Proofs.Xname.Templates
import SitePlan.Xname.Order

/-!
# The order of location names

Any texts are ordered by the comparison of location names, up to texts that differ by zeros in
front of numbers. Numbers of any size stand in the order of their values, since of two numbers
without zeros in front the longer one is greater, and of two that are equally long the first
different digit decides. A location name is therefore ordered by its letters and ordinals, from
the outermost one inwards, which makes an enclosing component come before what it encloses.
-/

namespace SitePlan.Xname

open Std Text

/-! ### Numbers -/

/-- Characters compare by their code points. -/
theorem compare_char (c d : Char) : Ord.compare c d = Ord.compare c.toNat d.toNat := by
  have hless : c < d ↔ c.toNat < d.toNat := Iff.rfl
  simp only [Ord.compare, compareOfLessAndEq, hless, Char.toNat_inj]

/-- Numbers of 32 bits compare by their values. -/
theorem compare_uint32 (n m : UInt32) : Ord.compare n m = Ord.compare n.toNat m.toNat := by
  have hless : n < m ↔ n.toNat < m.toNat := UInt32.lt_iff_toNat_lt
  simp only [Ord.compare, compareOfLessAndEq, hless, UInt32.toNat_inj]

/-- Digits denote less than the power of ten that has one more digit. -/
theorem ofDigitChars_lt {digits : List Char} (hall : digits.all Char.isDigit = true) :
    Nat.ofDigitChars 10 digits 0 < 10 ^ digits.length := by
  induction digits with
  | nil => simp
  | cons c rest ih =>
    rw [List.all_cons, Bool.and_eq_true] at hall
    have hzero : '0'.toNat = 48 := rfl
    have hvalue : c.toNat - '0'.toNat ≤ 9 := by
      have hc := isDigit_iff.mp hall.1
      omega
    have hrest := ih hall.2
    have hhead : 10 ^ rest.length * (c.toNat - '0'.toNat) ≤ 10 ^ rest.length * 9 :=
      Nat.mul_le_mul_left _ hvalue
    rw [Nat.ofDigitChars_cons, Nat.ofDigitChars_eq_ofDigitChars_zero, Nat.mul_zero, Nat.zero_add,
      List.length_cons, Nat.pow_succ]
    omega

/-- Digits without a zero in front denote at least the power of ten with as many digits. -/
theorem le_ofDigitChars {c : Char} {rest : List Char} (hc : c.isDigit = true) (hother : c ≠ '0') :
    10 ^ rest.length ≤ Nat.ofDigitChars 10 (c :: rest) 0 := by
  have hzero : '0'.toNat = 48 := rfl
  have hvalue : 1 ≤ c.toNat - '0'.toNat := by
    have hc := isDigit_iff.mp hc
    have hdiff : c.toNat ≠ 48 := fun h => hother (Char.toNat_inj.mp h)
    omega
  have hhead := Nat.mul_le_mul_left (10 ^ rest.length) hvalue
  rw [Nat.ofDigitChars_cons, Nat.ofDigitChars_eq_ofDigitChars_zero, Nat.mul_zero, Nat.zero_add]
  omega

/-- The digits behind the zeros in front denote the same number. -/
theorem ofDigitChars_significant (digits : List Char) :
    Nat.ofDigitChars 10 (significant digits) 0 = Nat.ofDigitChars 10 digits 0 := by
  induction digits with
  | nil => rfl
  | cons c rest ih =>
    by_cases hc : c = '0'
    · subst hc
      have hstep : significant ('0' :: rest) = significant rest := by simp [significant]
      rw [hstep, ih, Nat.ofDigitChars_cons]
      rfl
    · have hstep : significant (c :: rest) = c :: rest := by simp [significant, hc]
      rw [hstep]

/-- What remains behind the zeros in front is nothing, or begins with another digit. -/
theorem significant_cases {digits : List Char} (hall : digits.all Char.isDigit = true) :
    (significant digits).all Char.isDigit = true ∧
      ∀ c rest, significant digits = c :: rest → c.isDigit = true ∧ c ≠ '0' := by
  have hdigits : (significant digits).all Char.isDigit = true := by
    rw [List.all_eq_true] at hall ⊢
    exact fun c hc => hall c ((List.dropWhile_sublist _).mem hc)
  refine ⟨hdigits, fun c rest hrest => ⟨?_, ?_⟩⟩
  · rw [hrest, List.all_cons, Bool.and_eq_true] at hdigits
    exact hdigits.1
  · have hhead : ¬(c == '0') = true := by
      have hstop := List.head?_dropWhile_not (· == '0') digits
      rw [significant] at hrest
      simpa [hrest] using hstop
    simpa using hhead

/-- Of two numbers without zeros in front the one with more digits is greater. -/
theorem ofDigitChars_lt_of_length_lt {a b : List Char} (ha : a.all Char.isDigit = true)
    (hb : ∀ c rest, b = c :: rest → c.isDigit = true ∧ c ≠ '0') (hlength : a.length < b.length) :
    Nat.ofDigitChars 10 a 0 < Nat.ofDigitChars 10 b 0 := by
  obtain _ | ⟨c, rest⟩ := b
  · exact absurd hlength (Nat.not_lt_zero _)
  · obtain ⟨hdigit, hother⟩ := hb c rest rfl
    rw [List.length_cons, Nat.lt_succ_iff] at hlength
    calc Nat.ofDigitChars 10 a 0
        < 10 ^ a.length := ofDigitChars_lt ha
      _ ≤ 10 ^ rest.length := Nat.pow_le_pow_right (by decide) hlength
      _ ≤ Nat.ofDigitChars 10 (c :: rest) 0 := le_ofDigitChars hdigit hother

/-- Digits that are equally many compare digit by digit as their numbers do. -/
theorem compare_digits_of_length_eq {a b : List Char} (ha : a.all Char.isDigit = true)
    (hb : b.all Char.isDigit = true) (hlength : a.length = b.length) :
    Ord.compare a b = Ord.compare (Nat.ofDigitChars 10 a 0) (Nat.ofDigitChars 10 b 0) := by
  induction a generalizing b with
  | nil =>
    obtain rfl := List.length_eq_zero_iff.mp hlength.symm
    simp
  | cons c cs ih =>
    obtain _ | ⟨d, ds⟩ := b
    · cases hlength
    rw [List.all_cons, Bool.and_eq_true] at ha hb
    have hlength : cs.length = ds.length := Nat.succ.inj hlength
    have hrest := ih ha.2 hb.2 hlength
    have hcs := ofDigitChars_lt ha.2
    have hds := ofDigitChars_lt hb.2
    have hzero : '0'.toNat = 48 := rfl
    have hc := isDigit_iff.mp ha.1
    have hd := isDigit_iff.mp hb.1
    have hvalue : ∀ (e : Char) (es : List Char), Nat.ofDigitChars 10 (e :: es) 0 =
        10 ^ es.length * (e.toNat - '0'.toNat) + Nat.ofDigitChars 10 es 0 := fun e es => by
      rw [Nat.ofDigitChars_cons, Nat.ofDigitChars_eq_ofDigitChars_zero, Nat.mul_zero, Nat.zero_add]
    -- A smaller first digit outweighs whatever follows.
    have hless : ∀ {m n p u : Nat} (v : Nat), m < n → u < p → p * m + u < p * n + v := by
      intro m n p u v hmn hup
      have hmul : p * (m + 1) ≤ p * n := Nat.mul_le_mul_left p hmn
      rw [Nat.mul_add] at hmul
      omega
    rw [List.compare_cons_cons, compare_char, hvalue, hvalue, hlength]
    rcases Nat.lt_trichotomy c.toNat d.toNat with hlt | heq | hgt
    · have hfirst : c.toNat - '0'.toNat < d.toNat - '0'.toNat := by omega
      have hnumber := hless (Nat.ofDigitChars 10 ds 0) hfirst (hlength ▸ hcs)
      rw [Nat.compare_eq_lt.mpr hlt, Ordering.lt_then, Nat.compare_eq_lt.mpr hnumber]
    · rw [heq, compare_self, Ordering.eq_then, hrest]
      simp only [Nat.compare_eq_ite_lt, Nat.add_lt_add_iff_left]
    · have hfirst : d.toNat - '0'.toNat < c.toNat - '0'.toNat := by omega
      have hnumber := hless (Nat.ofDigitChars 10 cs 0) hfirst hds
      rw [Nat.compare_eq_gt.mpr hgt, Ordering.gt_then, Nat.compare_eq_gt.mpr hnumber]

/-- Numbers compare by their values, however they are padded. -/
theorem compareNumbers_eq {a b : List Char} (ha : a.all Char.isDigit = true)
    (hb : b.all Char.isDigit = true) :
    compareNumbers a b = Ord.compare (Nat.ofDigitChars 10 a 0) (Nat.ofDigitChars 10 b 0) := by
  obtain ⟨haDigits, haHead⟩ := significant_cases ha
  obtain ⟨hbDigits, hbHead⟩ := significant_cases hb
  rw [compareNumbers, ← ofDigitChars_significant a, ← ofDigitChars_significant b]
  rcases Nat.lt_trichotomy (significant a).length (significant b).length with hlt | heq | hgt
  · have hless := ofDigitChars_lt_of_length_lt haDigits hbHead hlt
    rw [Nat.compare_eq_lt.mpr hlt, Nat.compare_eq_lt.mpr hless, Ordering.lt_then]
  · rw [heq, compare_self, Ordering.eq_then, compare_digits_of_length_eq haDigits hbDigits heq]
  · have hless := ofDigitChars_lt_of_length_lt hbDigits haHead hgt
    rw [Nat.compare_eq_gt.mpr hgt, Nat.compare_eq_gt.mpr hless, Ordering.gt_then]

/-! ### Any texts -/

/-- Numbers are ordered by two keys, the count of their digits before the digits. -/
instance : TransCmp compareNumbers :=
  inferInstanceAs (TransCmp (compareLex (compareOn fun digits => (significant digits).length)
    (compareOn significant)))

/-- Runs are ordered, numbers before text. -/
instance : TransCmp Run.compare where
  eq_swap {a b} := by
    cases a <;> cases b
    case number.number a b =>
      exact show compareNumbers a b = (compareNumbers b a).swap from OrientedCmp.eq_swap
    case text.text a b =>
      exact show Ord.compare a b = (Ord.compare b a).swap from OrientedCmp.eq_swap
    all_goals rfl
  isLE_trans {a b c} hab hbc := by
    cases a <;> cases b <;> cases c
    case number.number.number a b c =>
      have hab : (compareNumbers a b).isLE = true := hab
      have hbc : (compareNumbers b c).isLE = true := hbc
      exact show (compareNumbers a c).isLE = true from TransCmp.isLE_trans hab hbc
    case text.text.text a b c =>
      have hab : (Ord.compare a b).isLE = true := hab
      have hbc : (Ord.compare b c).isLE = true := hbc
      exact show (Ord.compare a c).isLE = true from TransCmp.isLE_trans hab hbc
    all_goals
      first | rfl | exact absurd hab Bool.false_ne_true | exact absurd hbc Bool.false_ne_true

/-- Sequences of runs compare run by run, and a proper prefix comes first. -/
theorem compareRuns_eq_compareLex : compareRuns = List.compareLex Run.compare := by
  funext as bs
  induction as generalizing bs with
  | nil => cases bs <;> rfl
  | cons a as ih =>
    cases bs with
    | nil => rfl
    | cons b bs => rw [compareRuns, List.compareLex_cons_cons, ih]

/-- Sequences of runs are ordered. -/
instance : TransCmp compareRuns := by
  rw [compareRuns_eq_compareLex]
  infer_instance

/-- Texts are ordered by their runs. -/
instance : TransCmp compare where
  eq_swap {a b} :=
    show compareRuns (runs a) (runs b) = (compareRuns (runs b) (runs a)).swap from
      OrientedCmp.eq_swap
  isLE_trans {a b c} hab hbc := by
    have hab : (compareRuns (runs a) (runs b)).isLE = true := hab
    have hbc : (compareRuns (runs b) (runs c)).isLE = true := hbc
    exact show (compareRuns (runs a) (runs c)).isLE = true from TransCmp.isLE_trans hab hbc

/-- What makes a comparison an order of all texts, up to texts that compare equal. -/
structure TotalPreorder (cmp : String → String → Ordering) : Prop where
  /-- The comparison the other way round has the reverse outcome. -/
  reverse : ∀ a b, cmp b a = (cmp a b).swap
  /-- What comes before a text or compares equal to it does so for what follows. -/
  trans : ∀ a b c, (cmp a b).isLE = true → (cmp b c).isLE = true → (cmp a c).isLE = true
  /-- Texts that compare equal are alike. -/
  alike : Equivalence fun a b => cmp a b = .eq
  /-- Alike texts compare alike with other texts. -/
  congr : ∀ a a' b b', cmp a a' = .eq → cmp b b' = .eq → cmp a b = cmp a' b'

/-- Comparing location names orders all texts. -/
theorem totalPreorder_compare : TotalPreorder compare where
  reverse _ _ := OrientedCmp.eq_swap
  trans _ _ _ hab hbc := TransCmp.isLE_trans hab hbc
  alike := {
    refl := fun _ => ReflCmp.compare_self
    symm := fun hab => OrientedCmp.eq_symm hab
    trans := fun hab hbc => TransCmp.eq_trans hab hbc }
  congr _ _ _ _ ha hb := (TransCmp.congr_left ha).trans (TransCmp.congr_right hb)

/-! ### Sorting -/

/-- A list in order that still has each name, alike names in the places that they had among
each other. -/
structure SortedStably (xnames sorted : List String) : Prop where
  /-- No name is lost, and none is added. -/
  perm : sorted.Perm xnames
  /-- No name comes before one that it follows in the order. -/
  ordered : sorted.Pairwise fun a b => (compare a b).isLE = true
  /-- The names alike to any one stand in the order in which they stood. -/
  stable : ∀ a, sorted.filter (fun b => compare a b = .eq) =
    xnames.filter fun b => compare a b = .eq

/-- Any list of names is sorted stably. -/
theorem sortedStably_sort (xnames : List String) : SortedStably xnames (sort xnames) := by
  have htrans : ∀ a b c, (compare a b).isLE = true → (compare b c).isLE = true →
      (compare a c).isLE = true := totalPreorder_compare.trans
  have htotal : ∀ a b, ((compare a b).isLE || (compare b a).isLE) = true := fun a b => by
    rw [totalPreorder_compare.reverse a b]
    cases compare a b <;> rfl
  have hperm : (sort xnames).Perm xnames := List.mergeSort_perm _ _
  refine ⟨hperm, List.pairwise_mergeSort htrans htotal _, fun a => ?_⟩
  -- Alike names are in order as they stand, so sorting keeps them as a sublist.
  have halike : (xnames.filter fun b => compare a b = .eq).Pairwise
      fun b c => (compare b c).isLE = true := by
    refine List.pairwise_iff_forall_sublist.mpr fun {b c} hsublist => ?_
    have hb := List.of_mem_filter (hsublist.mem (List.mem_cons_self))
    have hc := List.of_mem_filter (hsublist.mem (List.mem_cons_of_mem b List.mem_cons_self))
    have hbc : compare b c = .eq := by
      rw [← TransCmp.congr_left (of_decide_eq_true hb)]
      exact of_decide_eq_true hc
    rw [hbc]
    rfl
  have hkept := (List.sublist_mergeSort htrans htotal halike (List.filter_sublist)).filter
    fun b => decide (compare a b = .eq)
  rw [List.filter_filter] at hkept
  simp only [Bool.and_self] at hkept
  exact (hkept.eq_of_length (hperm.symm.filter _).length_eq).symm

/-! ### Location names -/

/-- The first stretch of a text is of the sort of its first character. -/
theorem exists_stretches_cons (c : Char) (rest : List Char) :
    ∃ cs more, stretches (c :: rest) = (c.isDigit, cs) :: more := by
  unfold stretches
  split
  · next digits cs more _ =>
    by_cases hsame : digits = c.isDigit
    · exact ⟨c :: cs, more, by rw [if_pos hsame, hsame]⟩
    · exact ⟨[c], (digits, cs) :: more, by rw [if_neg hsame]⟩
  · exact ⟨[c], [], rfl⟩

/-- Characters of one sort are a stretch if the next one is of the other sort. -/
theorem stretches_append {digits : Bool} {cs rest : List Char} (hsome : cs ≠ [])
    (hall : ∀ c ∈ cs, c.isDigit = digits) (hnext : ∀ c ∈ rest.head?, c.isDigit ≠ digits) :
    stretches (cs ++ rest) = (digits, cs) :: stretches rest := by
  induction cs with
  | nil => exact absurd rfl hsome
  | cons c cs ih =>
    obtain ⟨rfl, hall⟩ := List.forall_mem_cons.mp hall
    cases cs with
    | nil =>
      cases rest with
      | nil => rfl
      | cons d ds =>
        obtain ⟨es, more, hrest⟩ := exists_stretches_cons d ds
        have hd : d.isDigit ≠ c.isDigit := hnext d rfl
        rw [List.singleton_append, stretches, hrest]
        exact if_neg hd
    | cons d ds =>
      rw [List.cons_append, stretches, ih (List.cons_ne_nil d ds) hall]
      exact if_pos rfl

/-- The segment has this letter, and an ordinal that is read as this one. -/
structure Segment.StandsFor (segment : Segment) (place : Char × UInt32) : Prop where
  /-- Segments begin with small letters. -/
  isLetter : isLetter segment.letter = true
  /-- The letter is the one of the place. -/
  letter_eq : segment.letter = place.1
  /-- The ordinal is the one of the place. -/
  ordinal_eq : segment.ordinal? = some place.2

/-- The two runs of a segment. -/
def Segment.runs (segment : Segment) : List Run := [.text [segment.letter], .number segment.digits]

/-- The runs of a location name are those of its segments. -/
theorem runs_render {segments : List Segment} {places : List (Char × UInt32)}
    (hplaces : List.Forall₂ Segment.StandsFor segments places) :
    runs (render segments) = segments.flatMap Segment.runs := by
  rw [render, Xname.runs, String.toList_ofList]
  induction hplaces with
  | nil => rfl
  | @cons segment place rest places hplace hrest ih =>
    obtain ⟨hsome, hdigits, _⟩ := ordinal?_eq_some_iff.mp hplace.ordinal_eq
    have hletter : segment.letter.isDigit = false := by
      have hdecimal := not_isDecimalDigit_of_isLetter hplace.isLetter
      simpa using mt isDecimalDigit_of_isDigit (Bool.not_eq_true _ ▸ hdecimal)
    have hafterLetter : ∀ c ∈ (segment.digits ++ rest.flatMap Segment.render).head?,
        c.isDigit ≠ false := by
      obtain ⟨d, ds, hds⟩ := List.exists_cons_of_ne_nil hsome
      rw [hds, List.all_cons, Bool.and_eq_true] at hdigits
      simp [hds, hdigits.1]
    have hafterDigits : ∀ c ∈ (rest.flatMap Segment.render).head?, c.isDigit ≠ true := by
      cases hrest with
      | nil => simp
      | cons hnext _ =>
        have hdecimal := not_isDecimalDigit_of_isLetter hnext.isLetter
        simpa [Segment.render] using mt isDecimalDigit_of_isDigit (Bool.not_eq_true _ ▸ hdecimal)
    have hall : ∀ c ∈ segment.digits, c.isDigit = true := List.all_eq_true.mp hdigits
    have hfirst : (segment :: rest).flatMap Segment.render =
        [segment.letter] ++ (segment.digits ++ rest.flatMap Segment.render) := rfl
    rw [hfirst, stretches_append (List.cons_ne_nil _ _) (by simpa using hletter) hafterLetter,
      stretches_append hsome hall hafterDigits, List.map_cons, List.map_cons, ih]
    rfl

/-- The letters and ordinals of a location name of this kind, outermost first. The root has
one, which is written with the ordinal zero. -/
def places : Kind → List UInt32 → List (Char × UInt32)
  | .system, _ => [('s', 0)]
  | kind, ns => kind.letters.zip ns

/-- A component other than the root has a place for each letter of its kind. -/
theorem places_of_ne_system {kind : Kind} (hroot : kind ≠ .system) (ns : List UInt32) :
    places kind ns = kind.letters.zip ns := by
  cases kind <;> first | rfl | exact absurd rfl hroot

/-- Places compare by their letters and then by their ordinals. -/
def comparePlace (p q : Char × UInt32) : Ordering :=
  (Ord.compare p.1 q.1).then (Ord.compare p.2 q.2)

/-- Places compare equal only to themselves. -/
instance : LawfulEqCmp comparePlace where
  compare_self {p} := by simp [comparePlace]
  eq_of_compare {p q} h := by
    rw [comparePlace, Ordering.then_eq_eq, Std.compare_eq_iff_eq, Std.compare_eq_iff_eq] at h
    exact Prod.ext h.1 h.2

/-- A location name with readable ordinals is made of segments that stand for its places. -/
theorem exists_standsFor {s : String} {kind : Kind} {ns : List UInt32}
    (hkind : kind? s = some kind) (hordinals : ordinals s = .ok ns) :
    ∃ segments, render segments = s ∧
      List.Forall₂ Segment.StandsFor segments (places kind ns) := by
  obtain ⟨segments, hparse⟩ := kind?_eq_some_iff.mp hkind
  obtain ⟨hsegments, hdenotes⟩ := parse?_eq_some_iff.mp hparse
  refine ⟨segments, render_of_segments? hsegments, ?_⟩
  by_cases hroot : kind = .system
  · subst hroot
    rw [segments_of_kindOfSegments?_system hdenotes]
    exact .cons ⟨by decide, rfl, by decide +kernel⟩ .nil
  · have hletters := letters_of_kindOfSegments? hdenotes
    have hplaces : places kind ns = (segments.map Segment.letter).zip ns := by
      rw [hletters, places_of_ne_system hroot]
    have hsmall := isLetter_of_letters hletters
    rw [ordinals_of_parse? hparse hroot, ordinalsOf_eq_ok] at hordinals
    rw [hplaces]
    clear hsegments hdenotes hparse hletters hplaces
    induction hordinals with
    | nil => exact .nil
    | cons hn _ ih =>
      obtain ⟨hletter, hsmall⟩ := List.forall_mem_cons.mp hsmall
      exact .cons ⟨hletter, rfl, hn⟩ (ih hsmall)

/-- Segments compare as the places that they stand for. -/
theorem compareRuns_flatMap {as bs : List Segment} {ps qs : List (Char × UInt32)}
    (has : List.Forall₂ Segment.StandsFor as ps) (hbs : List.Forall₂ Segment.StandsFor bs qs) :
    compareRuns (as.flatMap Segment.runs) (bs.flatMap Segment.runs) =
      List.compareLex comparePlace ps qs := by
  induction has generalizing bs qs with
  | nil => cases hbs <;> rfl
  | @cons a p as ps ha _ ih =>
    cases hbs with
    | nil => rfl
    | @cons b q bs qs hb hrest =>
      obtain ⟨_, haDigits, haValue⟩ := ordinal?_eq_some_iff.mp ha.ordinal_eq
      obtain ⟨_, hbDigits, hbValue⟩ := ordinal?_eq_some_iff.mp hb.ordinal_eq
      have hnumbers : compareNumbers a.digits b.digits = Ord.compare p.2 q.2 := by
        rw [compareNumbers_eq haDigits hbDigits, ← decimalValue_eq_ofDigitChars haDigits,
          ← decimalValue_eq_ofDigitChars hbDigits, haValue, hbValue, compare_uint32]
      have hletters : Ord.compare [a.letter] [b.letter] = Ord.compare p.1 q.1 := by
        rw [ha.letter_eq, hb.letter_eq, List.compare_cons_cons, compare_self, Ordering.then_eq]
      calc compareRuns ((a :: as).flatMap Segment.runs) ((b :: bs).flatMap Segment.runs)
          = (Ord.compare [a.letter] [b.letter]).then ((compareNumbers a.digits b.digits).then
              (compareRuns (as.flatMap Segment.runs) (bs.flatMap Segment.runs))) := rfl
        _ = (Ord.compare p.1 q.1).then ((Ord.compare p.2 q.2).then
              (List.compareLex comparePlace ps qs)) := by rw [hletters, hnumbers, ih hrest]
        _ = List.compareLex comparePlace (p :: ps) (q :: qs) := by
          rw [List.compareLex_cons_cons, comparePlace, Ordering.then_assoc]

/-- Location names with readable ordinals compare by their places. -/
theorem compare_eq_compareLex {a b : String} {k l : Kind} {ns ms : List UInt32}
    (haKind : kind? a = some k) (ha : ordinals a = .ok ns) (hbKind : kind? b = some l)
    (hb : ordinals b = .ok ms) :
    compare a b = List.compareLex comparePlace (places k ns) (places l ms) := by
  obtain ⟨as, rfl, has⟩ := exists_standsFor haKind ha
  obtain ⟨bs, rfl, hbs⟩ := exists_standsFor hbKind hb
  rw [compare, runs_render has, runs_render hbs, compareRuns_flatMap has hbs]

/-- The canonical spelling writes down the places. -/
theorem canonicalSegments_eq_map (kind : Kind) (ns : List UInt32) :
    canonicalSegments kind ns = (places kind ns).map fun place => .ofOrdinal place.1 place.2 := by
  by_cases hroot : kind = .system
  · subst hroot
    rfl
  · have hsegments : canonicalSegments kind ns = List.zipWith .ofOrdinal kind.letters ns := by
      cases kind <;> first | rfl | exact absurd rfl hroot
    rw [hsegments, places_of_ne_system hroot, List.zip, List.map_zipWith]

/-- Location names with readable ordinals are alike exactly if they have one canonical
spelling. -/
theorem compare_eq_eq_iff {a b : String} {ns ms : List UInt32} (ha : ordinals a = .ok ns)
    (hb : ordinals b = .ok ms) : compare a b = .eq ↔ normalize a = normalize b := by
  obtain ⟨k, as, haParse⟩ := exists_parse?_of_ordinals ha
  obtain ⟨l, bs, hbParse⟩ := exists_parse?_of_ordinals hb
  have haKind := kind?_eq_some_iff.mpr ⟨as, haParse⟩
  have hbKind := kind?_eq_some_iff.mpr ⟨bs, hbParse⟩
  rw [compare_eq_compareLex haKind ha hbKind hb, LawfulEqCmp.compare_eq_iff_eq]
  constructor
  · intro hplaces
    rw [normalize_eq_render haKind ha, normalize_eq_render hbKind hb, canonicalSegments_eq_map,
      hplaces, canonicalSegments_eq_map]
  · intro hsame
    obtain ⟨hkinds, rfl⟩ := (normalize_eq_normalize_iff ha hb).mp hsame
    obtain rfl : k = l := Option.some.inj (haKind.symm.trans (hkinds.trans hbKind))
    rfl

/-- With the same letters in front of them, ordinals decide. -/
theorem compareLex_zip {letters : List Char} {ns ms : List UInt32}
    (hns : letters.length = ns.length) (hms : letters.length = ms.length) :
    List.compareLex comparePlace (letters.zip ns) (letters.zip ms) =
      Component.compare.compareLex ns ms := by
  induction letters generalizing ns ms with
  | nil =>
    obtain rfl := List.length_eq_zero_iff.mp hns.symm
    obtain rfl := List.length_eq_zero_iff.mp hms.symm
    rfl
  | cons letter letters ih =>
    obtain _ | ⟨n, ns⟩ := ns
    · cases hns
    obtain _ | ⟨m, ms⟩ := ms
    · cases hms
    have hrest := ih (Nat.succ.inj hns) (Nat.succ.inj hms)
    rw [List.zip_cons_cons, List.zip_cons_cons, List.compareLex_cons_cons, comparePlace, hrest,
      compare_self, Ordering.eq_then, Component.compare.compareLex]

/-- Location names of two components of one kind compare as the components. -/
theorem compare_of_parse {kind : Kind} {s t : String} {a b : Component}
    (ha : Component.parse kind s = .ok a) (hb : Component.parse kind t = .ok b) :
    compare s t = a.compare b := by
  obtain ⟨rfl, hsKind, hs⟩ := Component.parse_eq_ok.mp ha
  obtain ⟨hkind, htKind, ht⟩ := Component.parse_eq_ok.mp hb
  rw [compare_eq_compareLex hsKind hs htKind ht]
  by_cases hroot : a.kind = .system
  · have hsystem : ∀ c : Component, c.kind = .system → c = .system := by
      rintro (_ | _) hc <;> first | rfl | cases hc
    rw [hsystem a hroot, hsystem b (hkind.trans hroot)]
    rfl
  · have hletters := Component.length_letters hroot
    have hother := Component.length_letters (hkind ▸ hroot)
    rw [places_of_ne_system hroot, places_of_ne_system hroot, Component.compare]
    exact compareLex_zip hletters (hkind ▸ hother)

/-- Places come before those that lie farther in. -/
theorem compareLex_append (ps : List (Char × UInt32)) (q : Char × UInt32) :
    List.compareLex comparePlace ps (ps ++ [q]) = .lt := by
  induction ps with
  | nil => rfl
  | cons p ps ih =>
    have hfirst : comparePlace p p = .eq := ReflCmp.compare_self
    rw [List.cons_append, List.compareLex_cons_cons, hfirst, Ordering.eq_then, ih]

/-- A location name has a place more than the enclosing one, unless that is the root. -/
theorem exists_places_eq_append {s p : String} {kind : Kind} {ns : List UInt32}
    (hkind : kind? s = some kind) (hordinals : ordinals s = .ok ns) (hparent : parent s = .ok p)
    (hother : p ≠ root) :
    ∃ outer ms q, kind? p = some outer ∧ ordinals p = .ok ms ∧
      places kind ns = places outer ms ++ [q] := by
  obtain ⟨segments, hparse⟩ := kind?_eq_some_iff.mp hkind
  have hroot : kind ≠ .system := by
    rintro rfl
    simp [parent, hparse] at hparent
  obtain ⟨outer, houter, hcases⟩ := Kind.exists_parent? hroot
  obtain rfl := Except.ok.inj ((parent_of_parse? hparse hroot).symm.trans hparent)
  have hparentKind := kind?_eq_some_iff.mpr ⟨_, parse?_outerSegments hparse hroot houter⟩
  have hparentOrdinals := ordinals_outerSegments hparse hroot houter hordinals
  rcases hcases with ⟨rfl, _⟩ | ⟨houterRoot, hletters⟩
  · exact absurd (kind?_eq_some_iff_matches.mp hparentKind) hother
  · have hlength : kind.letters.length = ns.length := by
      rw [ordinals_of_parse? hparse hroot, ordinalsOf_eq_ok] at hordinals
      rw [← hordinals.length_eq, ← letters_of_kindOfSegments? (parse?_eq_some_iff.mp hparse).2,
        List.length_map]
    have hsome : kind.letters ≠ [] := by cases kind <;> exact List.cons_ne_nil _ _
    have hordinalsSome : ns ≠ [] := by
      rintro rfl
      exact hsome (List.length_eq_zero_iff.mp hlength)
    refine ⟨outer, ns.dropLast, (kind.letters.getLast hsome, ns.getLast hordinalsSome),
      hparentKind, hparentOrdinals, ?_⟩
    have hdrop : kind.letters.dropLast.length = ns.dropLast.length := by
      rw [List.length_dropLast, List.length_dropLast, hlength]
    calc places kind ns
        = (kind.letters.dropLast ++ [kind.letters.getLast hsome]).zip
            (ns.dropLast ++ [ns.getLast hordinalsSome]) := by
          rw [List.dropLast_concat_getLast, List.dropLast_concat_getLast,
            places_of_ne_system hroot]
      _ = kind.letters.dropLast.zip ns.dropLast ++
            [(kind.letters.getLast hsome, ns.getLast hordinalsSome)] := List.zip_append hdrop
      _ = places outer ns.dropLast ++
            [(kind.letters.getLast hsome, ns.getLast hordinalsSome)] := by
          rw [places_of_ne_system houterRoot, hletters]

/-- An enclosing component other than the root comes before what it encloses. -/
theorem compare_parent {s p : String} {ns : List UInt32} (hordinals : ordinals s = .ok ns)
    (hparent : parent s = .ok p) (hother : p ≠ root) : compare p s = .lt := by
  obtain ⟨kind, segments, hparse⟩ := exists_parse?_of_ordinals hordinals
  have hkind := kind?_eq_some_iff.mpr ⟨segments, hparse⟩
  obtain ⟨outer, ms, q, houter, hms, hplaces⟩ :=
    exists_places_eq_append hkind hordinals hparent hother
  rw [compare_eq_compareLex houter hms hkind hordinals, hplaces, compareLex_append]

/-- Location names are ordered by structure. Comparing them orders all texts, so that every
list is sorted stably. Names with readable ordinals compare by their letters and ordinals from
the outermost one inwards, a proper prefix first: they are alike exactly if they have one
canonical spelling, they compare as the components do if both denote components of one kind,
and each comes after the name that encloses it, unless that is the root. -/
theorem compare_orders_by_structure :
    TotalPreorder compare ∧ (∀ xnames, SortedStably xnames (sort xnames)) ∧
      (∀ a b k l ns ms, kind? a = some k → ordinals a = .ok ns → kind? b = some l →
        ordinals b = .ok ms →
          compare a b = List.compareLex comparePlace (places k ns) (places l ms) ∧
            (compare a b = .eq ↔ normalize a = normalize b)) ∧
      (∀ kind s t a b, Component.parse kind s = .ok a → Component.parse kind t = .ok b →
        compare s t = a.compare b) ∧
      ∀ s p ns, ordinals s = .ok ns → parent s = .ok p → p ≠ root → compare p s = .lt :=
  ⟨totalPreorder_compare, sortedStably_sort,
    fun _ _ _ _ _ _ haKind ha hbKind hb =>
      ⟨compare_eq_compareLex haKind ha hbKind hb, compare_eq_eq_iff ha hb⟩,
    fun _ _ _ _ _ => compare_of_parse, fun _ _ _ => compare_parent⟩

/-- In a room with three racks, a chassis comes before the slot in it, whose padding does not
count, and cabinets stand in the order of their numbers. -/
theorem compare_orders_by_structure_racks :
    compare "x3000c0" "x3000c0s7" = .lt ∧
      (compare "x3000c0s07" "x3000c0s7" = .eq ∧ normalize "x3000c0s07" = normalize "x3000c0s7") ∧
      compare "x9" "x010" = .lt ∧
      SortedStably ["x3000c0s07", "x010", "x9", "x3000c0s7"]
        (sort ["x3000c0s07", "x010", "x9", "x3000c0s7"]) := by
  obtain ⟨_, hsort, hnames, hcomponents, hparents⟩ := compare_orders_by_structure
  have hslot : kind? "x3000c0s7" = some .computeModule := by decide +kernel
  have hpadded : kind? "x3000c0s07" = some .computeModule := by decide +kernel
  have hslotOrdinals : ordinals "x3000c0s7" = .ok [3000, 0, 7] := by decide +kernel
  have hpaddedOrdinals : ordinals "x3000c0s07" = .ok [3000, 0, 7] := by decide +kernel
  have hparent : parent "x3000c0s7" = .ok "x3000c0" := by decide +kernel
  have hnine : Component.parse .cabinet "x9" = .ok (.cabinet 9) := by decide +kernel
  have hten : Component.parse .cabinet "x010" = .ok (.cabinet 10) := by decide +kernel
  obtain ⟨hplaces, halike⟩ := hnames _ _ _ _ _ _ hpadded hpaddedOrdinals hslot hslotOrdinals
  have hequal : compare "x3000c0s07" "x3000c0s7" = .eq := hplaces.trans ReflCmp.compare_self
  exact ⟨hparents _ _ _ hslotOrdinals hparent (by decide), ⟨hequal, halike.mp hequal⟩,
    hcomponents _ _ _ _ _ hnine hten, hsort _⟩

end SitePlan.Xname
