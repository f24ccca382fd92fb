import SitePlan.Proofs.Xname.Components

/-!
# Templates and enclosing components

The letters of a kind are the template of its location names: each letter is followed by the
digits of an ordinal. A text fits one template at most, since the letters can be read off it.
What encloses a component has the template without its last letter, so its location name is
the text in front of the last letter, and the way to the system root is as long as the
template.
-/

namespace SitePlan.Xname

open Outcome Text

/-! ### Templates -/

/-- The text is made of these letters, each followed by one or more decimal digits. -/
inductive Spells : List Char → List Char → Prop
  /-- Without letters there is no text. -/
  | nil : Spells [] []
  /-- A letter and its digits come before the rest. -/
  | cons {letter : Char} {digits letters cs : List Char} (hsome : digits ≠ [])
    (hdecimal : ∀ c ∈ digits, isDecimalDigit c = true) (hrest : Spells letters cs) :
    Spells (letter :: letters) (letter :: digits ++ cs)

/-- The text fits the template of the kind. The root has the one location name that is
fixed. -/
def Kind.Matches : Kind → String → Prop
  | .system, s => s = root
  | kind, s => Spells kind.letters s.toList

/-- A kind other than the root is matched by what its letters spell. -/
theorem Kind.matches_iff {kind : Kind} {s : String} (hroot : kind ≠ .system) :
    kind.Matches s ↔ Spells kind.letters s.toList := by
  cases kind <;> first | exact Iff.rfl | exact absurd rfl hroot

/-- Well-written segments are spelled by their letters. -/
theorem spells_render {segments : List Segment}
    (hwritten : ∀ segment ∈ segments, segment.WellWritten) :
    Spells (segments.map Segment.letter) (segments.flatMap Segment.render) := by
  induction segments with
  | nil => exact .nil
  | cons segment rest ih =>
    obtain ⟨_, hsome, hdecimal⟩ := hwritten segment List.mem_cons_self
    exact .cons hsome hdecimal
      (ih fun other hother => hwritten other (List.mem_cons_of_mem segment hother))

/-- What small letters spell are well-written segments with these letters. -/
theorem Spells.exists_segments {letters cs : List Char} (hspells : Spells letters cs)
    (hletters : ∀ c ∈ letters, isLetter c = true) :
    ∃ segments : List Segment, (∀ segment ∈ segments, segment.WellWritten) ∧
      segments.map Segment.letter = letters ∧ segments.flatMap Segment.render = cs := by
  induction hspells with
  | nil => exact ⟨[], by simp, rfl, rfl⟩
  | @cons letter digits letters cs hsome hdecimal _ ih =>
    obtain ⟨hletter, hletters⟩ := List.forall_mem_cons.mp hletters
    obtain ⟨segments, hwritten, rfl, rfl⟩ := ih hletters
    refine ⟨⟨letter, digits⟩ :: segments, List.forall_mem_cons.mpr ⟨?_, hwritten⟩, rfl, rfl⟩
    exact ⟨not_isDecimalDigit_of_isLetter hletter, hsome, hdecimal⟩

/-- The root denotes the system. -/
theorem kind?_root : kind? root = some .system := Component.kind?_toXname .system

/-- A text denotes a kind exactly if it fits the template of the kind. -/
theorem kind?_eq_some_iff_matches {s : String} {kind : Kind} :
    kind? s = some kind ↔ kind.Matches s := by
  by_cases hroot : kind = .system
  · subst hroot
    constructor
    · intro hkind
      obtain ⟨segments, hparse⟩ := kind?_eq_some_iff.mp hkind
      obtain ⟨hsegments, hdenotes⟩ := parse?_eq_some_iff.mp hparse
      have hrender := render_of_segments? hsegments
      rw [segments_of_kindOfSegments?_system hdenotes] at hrender
      exact hrender.symm
    · rintro rfl
      exact kind?_root
  · rw [Kind.matches_iff hroot]
    constructor
    · intro hkind
      obtain ⟨segments, hparse⟩ := kind?_eq_some_iff.mp hkind
      obtain ⟨hsegments, hdenotes⟩ := parse?_eq_some_iff.mp hparse
      rw [← letters_of_kindOfSegments? hdenotes, ← render_of_segments? hsegments, render,
        String.toList_ofList]
      exact spells_render (wellWritten_of_segments? hsegments)
    · intro hspells
      have hletters : ∀ c ∈ kind.letters, isLetter c = true := by
        rw [← List.all_eq_true]
        cases kind <;> rfl
      obtain ⟨segments, hwritten, hmap, hrender⟩ := hspells.exists_segments hletters
      refine kind?_eq_some_iff.mpr ⟨segments, parse?_eq_some_iff.mpr ⟨?_, ?_⟩⟩
      · rw [← String.ofList_toList (s := s), ← hrender]
        exact segments?_render hwritten
      · exact kindOfSegments?_eq_some hmap hroot

/-- A text fits one template at most. -/
theorem Kind.Matches.unique {a b : Kind} {s : String} (ha : a.Matches s) (hb : b.Matches s) :
    a = b := by
  have hsame := (kind?_eq_some_iff_matches.mpr ha).symm.trans (kind?_eq_some_iff_matches.mpr hb)
  exact Option.some.inj hsame

/-! ### Enclosing components -/

/-- The enclosing kind has the letters without the last one; the root encloses what has one
letter. -/
theorem Kind.exists_parent? {kind : Kind} (hroot : kind ≠ .system) :
    ∃ outer, kind.parent? = some outer ∧
      ((outer = .system ∧ kind.letters.dropLast = []) ∨
        (outer ≠ .system ∧ outer.letters = kind.letters.dropLast)) := by
  cases kind <;> first | exact absurd rfl hroot | exact ⟨_, rfl, by decide⟩

/-- The segments of the name that encloses the one with these segments. -/
def outerSegments (segments : List Segment) : List Segment :=
  if segments.dropLast = [] then [⟨'s', ['0']⟩] else segments.dropLast

/-- The parent of a location name is made of its outer segments. -/
theorem parent_of_parse? {s : String} {kind : Kind} {segments : List Segment}
    (hparse : parse? s = some (kind, segments)) (hroot : kind ≠ .system) :
    parent s = .ok (render (outerSegments segments)) := by
  unfold parent outerSegments
  rw [hparse]
  split
  · next hnone => cases hnone
  · next hsystem =>
    cases hsystem
    exact absurd rfl hroot
  · next hsome =>
    cases hsome
    cases hdrop : segments.dropLast with
    | nil => rfl
    | cons segment rest => rw [if_neg (List.cons_ne_nil _ _)]

/-- The outer segments are that of the root, or those with the letters of the enclosing
kind. -/
theorem outerSegments_cases {s : String} {kind outer : Kind} {segments : List Segment}
    (hparse : parse? s = some (kind, segments)) (hroot : kind ≠ .system)
    (houter : kind.parent? = some outer) :
    (outer = .system ∧ segments.dropLast = [] ∧ outerSegments segments = [⟨'s', ['0']⟩]) ∨
      (outer ≠ .system ∧ segments.dropLast.map Segment.letter = outer.letters ∧
        outerSegments segments = segments.dropLast) := by
  have hmap : segments.dropLast.map Segment.letter = kind.letters.dropLast := by
    rw [List.map_dropLast, letters_of_kindOfSegments? (parse?_eq_some_iff.mp hparse).2]
  obtain ⟨found, hfound, hcases⟩ := Kind.exists_parent? hroot
  obtain rfl : found = outer := Option.some.inj (hfound.symm.trans houter)
  rcases hcases with ⟨hsystem, hnone⟩ | ⟨hother, hletters⟩
  · have hdrop : segments.dropLast = [] := List.map_eq_nil_iff.mp (hmap.trans hnone)
    exact .inl ⟨hsystem, hdrop, if_pos hdrop⟩
  · have hdrop : segments.dropLast ≠ [] := by
      intro hnil
      rw [hnil, ← hletters] at hmap
      cases found <;> cases hmap
    exact .inr ⟨hother, hmap.trans hletters.symm, if_neg hdrop⟩

/-- The outer segments are those of a location name of the enclosing kind. -/
theorem parse?_outerSegments {s : String} {kind outer : Kind} {segments : List Segment}
    (hparse : parse? s = some (kind, segments)) (hroot : kind ≠ .system)
    (houter : kind.parent? = some outer) :
    parse? (render (outerSegments segments)) = some (outer, outerSegments segments) := by
  have hsegments := (parse?_eq_some_iff.mp hparse).1
  rcases outerSegments_cases hparse hroot houter with
    ⟨rfl, _, houterSegments⟩ | ⟨hother, hletters, houterSegments⟩
  · rw [houterSegments]
    exact Component.parse?_toXname .system
  · have hwritten : ∀ segment ∈ segments.dropLast, segment.WellWritten := fun segment hmem =>
      wellWritten_of_segments? hsegments segment ((List.dropLast_sublist _).mem hmem)
    rw [houterSegments, parse?_eq_some_iff]
    exact ⟨segments?_render hwritten, kindOfSegments?_eq_some hletters hother⟩

/-- The enclosing name has the ordinals without the last one. -/
theorem ordinals_outerSegments {s : String} {kind outer : Kind} {segments : List Segment}
    {ns : List UInt32} (hparse : parse? s = some (kind, segments)) (hroot : kind ≠ .system)
    (houter : kind.parent? = some outer) (hordinals : ordinals s = .ok ns) :
    ordinals (render (outerSegments segments)) = .ok ns.dropLast := by
  have hparent := parse?_outerSegments hparse hroot houter
  rw [ordinals_of_parse? hparse hroot, ordinalsOf_eq_ok] at hordinals
  have hinit : List.Forall₂ (fun segment n => segment.ordinal? = some n) segments.dropLast
      ns.dropLast := by
    rw [List.dropLast_eq_take, List.dropLast_eq_take, hordinals.length_eq]
    exact List.forall₂_take _ hordinals
  rcases outerSegments_cases hparse hroot houter with
    ⟨rfl, hdrop, _⟩ | ⟨hother, _, houterSegments⟩
  · rw [hdrop] at hinit
    rw [List.forall₂_nil_left_iff.mp hinit, ordinals, hparent]
  · rw [ordinals_of_parse? hparent hother, ordinalsOf_eq_ok, houterSegments]
    exact hinit

/-! ### The text in front of the last letter -/

/-- The text in front of its last ASCII letter. -/
def beforeLastLetter (cs : List Char) : List Char :=
  ((cs.reverse.dropWhile fun c => !c.isAlpha).drop 1).reverse

/-- A small letter is an ASCII letter. -/
theorem isAlpha_of_isLetter {c : Char} (hc : isLetter c = true) : c.isAlpha = true := by
  rw [isLetter_iff] at hc
  have hlower : c.isLower = true := Bool.and_eq_true_iff.mpr
    ⟨decide_eq_true (UInt32.le_iff_toNat_le.mpr hc.1),
      decide_eq_true (UInt32.le_iff_toNat_le.mpr hc.2)⟩
  exact Bool.or_eq_true_iff.mpr (.inr hlower)

/-- A decimal digit is no ASCII letter. -/
theorem not_isAlpha_of_isDecimalDigit {c : Char} (hc : isDecimalDigit c = true) :
    c.isAlpha = false :=
  forall_decimalDigit (P := fun c => c.isAlpha = false) (by decide +kernel) hc

/-- The last letter is that of the last segment. -/
theorem beforeLastLetter_append {cs digits : List Char} {letter : Char}
    (hletter : letter.isAlpha = true) (hdigits : ∀ c ∈ digits, c.isAlpha = false) :
    beforeLastLetter (cs ++ letter :: digits) = cs := by
  have hskip : (digits.reverse ++ letter :: cs.reverse).dropWhile (fun c => !c.isAlpha) =
      letter :: cs.reverse := by
    rw [List.dropWhile_append_of_pos fun c hc => by simp [hdigits c (List.mem_reverse.mp hc)]]
    exact List.dropWhile_cons_of_neg (by simp [hletter])
  have hreverse : (cs ++ letter :: digits).reverse = digits.reverse ++ letter :: cs.reverse := by
    simp
  rw [beforeLastLetter, hreverse, hskip, List.drop_one, List.tail_cons, List.reverse_reverse]

/-- What encloses a component is named by the text in front of the last letter of its name,
and is the root if there is none. -/
theorem parent_eq_beforeLastLetter {s : String} {kind : Kind} (hkind : kind? s = some kind)
    (hroot : kind ≠ .system) :
    parent s = .ok (if beforeLastLetter s.toList = [] then root
      else String.ofList (beforeLastLetter s.toList)) := by
  obtain ⟨segments, hparse⟩ := kind?_eq_some_iff.mp hkind
  obtain ⟨hsegments, hdenotes⟩ := parse?_eq_some_iff.mp hparse
  have hletters := letters_of_kindOfSegments? hdenotes
  obtain rfl | ⟨outer, last, rfl⟩ := segments.eq_nil_or_concat
  · cases kind <;> cases hletters
  have hlast : last.WellWritten := wellWritten_of_segments? hsegments last (by simp)
  have hbefore : beforeLastLetter s.toList = outer.flatMap Segment.render := by
    rw [← render_of_segments? hsegments, render, String.toList_ofList, List.concat_eq_append,
      List.flatMap_append, List.flatMap_singleton, Segment.render]
    exact beforeLastLetter_append
      (isAlpha_of_isLetter (isLetter_of_letters hletters last (by simp)))
      fun c hc => not_isAlpha_of_isDecimalDigit (hlast.decimal c hc)
  rw [parent_of_parse? hparse hroot, hbefore, outerSegments, List.concat_eq_append,
    List.dropLast_concat]
  cases outer with
  | nil => rfl
  | cons first rest =>
    have hsome : (first :: rest).flatMap Segment.render ≠ [] := by simp [Segment.render]
    rw [if_neg (List.cons_ne_nil _ _), if_neg hsome, render]

/-! ### The way to the root -/

/-- What is reached from a location name by so many steps to the enclosing one. -/
def ancestor : Nat → String → Except Error String
  | 0, s => .ok s
  | steps + 1, s => do ancestor steps (← parent s)

/-- How many steps the root is away from the components of a kind. -/
def Kind.depth : Kind → Nat
  | .system => 0
  | kind => kind.letters.length

/-- A kind lies one step deeper than the one that encloses it. -/
theorem Kind.depth_of_parent? {kind outer : Kind} (houter : kind.parent? = some outer) :
    kind.depth = outer.depth + 1 := by
  cases kind <;> cases houter <;> rfl

/-- The root is what is as many steps away as the kind is deep. -/
theorem ancestor_eq_root_iff {s : String} {kind : Kind} (hkind : kind? s = some kind)
    (steps : Nat) : ancestor steps s = .ok root ↔ steps = kind.depth := by
  induction steps generalizing s kind with
  | zero =>
    rw [ancestor, Except.ok.injEq]
    constructor
    · rintro rfl
      obtain rfl : kind = .system := Option.some.inj (hkind.symm.trans kind?_root)
      rfl
    · intro hdepth
      have hsystem : kind = .system := by
        cases kind <;> first | rfl | cases hdepth
      subst hsystem
      exact kind?_eq_some_iff_matches.mp hkind
  | succ steps ih =>
    obtain ⟨segments, hparse⟩ := kind?_eq_some_iff.mp hkind
    rw [ancestor, bind_eq_ok]
    by_cases hroot : kind = .system
    · subst hroot
      simp [parent, hparse, Kind.depth]
    · obtain ⟨outer, houter, _⟩ := Kind.exists_parent? hroot
      have hparent := kind?_eq_some_iff.mpr ⟨_, parse?_outerSegments hparse hroot houter⟩
      simp only [parent_of_parse? hparse hroot, Except.ok.injEq, exists_eq_left', ih hparent,
        Kind.depth_of_parent? houter, Nat.add_right_cancel_iff]

/-- There is no way out of the root and none from a text that is no location name, and no
other fault. -/
theorem parent_eq_error_iff {s : String} {fault : Error} :
    parent s = .error fault ↔
      (s = root ∧ fault = .noParent s) ∨ (kind? s = none ∧ fault = .invalid s) := by
  cases hkind : kind? s with
  | none =>
    have hparse : parse? s = none := by simpa [kind?] using hkind
    have hother : s ≠ root := by
      rintro rfl
      rw [kind?_root] at hkind
      cases hkind
    simp [parent, hparse, hother, eq_comm]
  | some kind =>
    obtain ⟨segments, hparse⟩ := kind?_eq_some_iff.mp hkind
    by_cases hroot : kind = .system
    · subst hroot
      obtain rfl : s = root := kind?_eq_some_iff_matches.mp hkind
      simp [parent, hparse, eq_comm]
    · have hother : s ≠ root := by
        rintro rfl
        exact hroot (Option.some.inj (hkind.symm.trans kind?_root))
      simp [parent_of_parse? hparse hroot, hother]

/-- What a location name says of the enclosing component. -/
structure ClosedUnderParents (s : String) (kind : Kind) : Prop where
  /-- The enclosing name is a location name of the enclosing kind, with the ordinals without
  the last one if these can be read. -/
  parent : ∃ p outer, Xname.parent s = .ok p ∧ kind.parent? = some outer ∧
    kind? p = some outer ∧ ∀ ns, ordinals s = .ok ns → ordinals p = .ok ns.dropLast
  /-- It is the text in front of the last letter; in front of the first one lies the root. -/
  cut : Xname.parent s = .ok (if beforeLastLetter s.toList = [] then root
    else String.ofList (beforeLastLetter s.toList))
  /-- The root is as many steps away as the template has letters. -/
  steps : ∀ steps, ancestor steps s = .ok root ↔ steps = kind.letters.length

/-- Location names other than the root are closed under parents. -/
theorem closedUnderParents {s : String} {kind : Kind} (hkind : kind? s = some kind)
    (hother : s ≠ root) : ClosedUnderParents s kind := by
  have hroot : kind ≠ .system := by
    rintro rfl
    exact hother (kind?_eq_some_iff_matches.mp hkind)
  obtain ⟨segments, hparse⟩ := kind?_eq_some_iff.mp hkind
  obtain ⟨outer, houter, _⟩ := Kind.exists_parent? hroot
  have hdepth : kind.depth = kind.letters.length := by
    cases kind <;> first | rfl | exact absurd rfl hroot
  constructor
  · exact ⟨_, outer, parent_of_parse? hparse hroot, houter,
      kind?_eq_some_iff.mpr ⟨_, parse?_outerSegments hparse hroot houter⟩,
      fun ns => ordinals_outerSegments hparse hroot houter⟩
  · exact parent_eq_beforeLastLetter hkind hroot
  · intro steps
    rw [ancestor_eq_root_iff hkind, hdepth]

/-- The grammar of location names is unambiguous and closed under parents. A text fits one
template at most and denotes the kind of the template that it fits; what encloses a location
name is found at its last letter and up to the root; and only the root and texts that are no
location names have no parent. -/
theorem grammar_unambiguous (s : String) :
    (∀ a b : Kind, a.Matches s → b.Matches s → a = b) ∧
      (∀ kind, kind? s = some kind ↔ kind.Matches s) ∧
      (∀ kind, kind? s = some kind → s ≠ root → ClosedUnderParents s kind) ∧
      ∀ fault, parent s = .error fault ↔
        (s = root ∧ fault = .noParent s) ∨ (kind? s = none ∧ fault = .invalid s) :=
  ⟨fun _ _ => Kind.Matches.unique, fun _ => kind?_eq_some_iff_matches,
    fun _ => closedUnderParents, fun _ => parent_eq_error_iff⟩

/-- A node's name with padding and a digit of another script is five steps away from the
root. -/
theorem grammar_unambiguous_node :
    kind? "x3000c0s٣b00n0" = some .node ∧
      Kind.Matches .node "x3000c0s٣b00n0" ∧
      ClosedUnderParents "x3000c0s٣b00n0" .node ∧
      (ancestor 5 "x3000c0s٣b00n0").toOption = some root := by
  have hkind : kind? "x3000c0s٣b00n0" = some .node := by decide +kernel
  obtain ⟨_, hmatches, hclosed, _⟩ := grammar_unambiguous "x3000c0s٣b00n0"
  have hnode := hclosed _ hkind (by decide)
  have hroot := (hnode.steps 5).mpr rfl
  exact ⟨hkind, (hmatches _).mp hkind, hnode, by rw [hroot]; rfl⟩

end SitePlan.Xname
