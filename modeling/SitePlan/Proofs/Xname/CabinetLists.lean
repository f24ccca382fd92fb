import Mathlib.Data.List.Destutter
import SitePlan.Proofs.Xname.Order

/-!
# Lists of cabinets

The cabinets among location names are listed in order, and a name that follows itself is listed
once. Sorting does not tell the spellings of one cabinet apart, so they keep the places that they
had among each other, and a name is listed again where another spelling of its cabinet stood
between two places of it. Nothing else makes the list repeat a name.
-/

namespace SitePlan.Xname

open Std

/-! ### Names that follow themselves -/

section

variable {α : Type} [DecidableEq α]

/-- Leaving out what follows itself, with what was kept so far in reverse. -/
theorem eraseRepsBy_loop_eq (a : α) (l kept : List α) :
    List.eraseRepsBy.loop (· == ·) a l kept = kept.reverse ++ l.destutter' (· ≠ ·) a := by
  induction l generalizing a kept with
  | nil => simp [List.eraseRepsBy.loop]
  | cons b l ih =>
    rw [List.eraseRepsBy.loop, List.destutter'_cons]
    by_cases hab : a = b
    · subst hab
      rw [if_neg (not_not.mpr rfl)]
      simpa using ih a kept
    · have hbeq : (a == b) = false := beq_false_of_ne hab
      rw [if_pos hab, hbeq]
      simpa using ih b (a :: kept)

/-- To leave out what follows itself is to keep what differs from what was kept last. -/
theorem eraseReps_eq_destutter (l : List α) : l.eraseReps = l.destutter (· ≠ ·) := by
  cases l with
  | nil => rfl
  | cons a l => exact eraseRepsBy_loop_eq a l []

/-- A sublist in which nothing follows itself remains when what follows itself is left out. -/
theorem sublist_destutter'_of_isChain {a : α} {l s : List α} (hs : s.IsChain (· ≠ ·))
    (hsublist : s.Sublist (a :: l)) : s.Sublist (l.destutter' (· ≠ ·) a) := by
  induction l generalizing a s with
  | nil => exact hsublist
  | cons b l ih =>
    rw [List.destutter'_cons]
    by_cases hab : a = b
    · subst hab
      rw [if_neg (not_not.mpr rfl)]
      refine ih hs ?_
      -- Of the two equal elements in front a sublist without repetition takes one at most.
      cases hsublist with
      | cons _ hrest => exact hrest
      | cons_cons _ hrest =>
        next t =>
        cases hrest with
        | cons _ hlater => exact hlater.cons_cons a
        | cons_cons _ _ => exact absurd rfl hs.rel
    · rw [if_pos hab]
      cases hsublist with
      | cons _ hrest => exact (ih hs hrest).cons a
      | cons_cons _ hrest => exact (ih hs.tail hrest).cons_cons a

/-- A sublist in which nothing follows itself remains. -/
theorem sublist_eraseReps_of_isChain {l s : List α} (hs : s.IsChain (· ≠ ·))
    (hsublist : s.Sublist l) : s.Sublist l.eraseReps := by
  rw [eraseReps_eq_destutter]
  cases l with
  | nil => exact hsublist
  | cons a l => exact sublist_destutter'_of_isChain hs hsublist

/-- What is left out is there still. -/
theorem mem_eraseReps {a : α} {l : List α} : a ∈ l.eraseReps ↔ a ∈ l := by
  constructor
  · rw [eraseReps_eq_destutter]
    exact (List.destutter_sublist _ l).mem
  · intro ha
    have hsingle : [a].Sublist l.eraseReps :=
      sublist_eraseReps_of_isChain (.singleton a) (List.singleton_sublist.mpr ha)
    exact List.singleton_sublist.mp hsingle

/-- Where nothing follows itself, an element that stands in two places has another one between
them. -/
theorem exists_between_of_not_nodup {l : List α} (hchain : l.IsChain (· ≠ ·))
    (hrepeats : ¬l.Nodup) : ∃ a b, a ≠ b ∧ [a, b, a].Sublist l := by
  induction l with
  | nil => exact absurd List.nodup_nil hrepeats
  | cons a l ih =>
    by_cases hrest : l.Nodup
    · have ha : a ∈ l := by
        by_contra habsent
        exact hrepeats (List.nodup_cons.mpr ⟨habsent, hrest⟩)
      cases l with
      | nil => cases ha
      | cons b l =>
        have hab : a ≠ b := hchain.rel
        have hlater : a ∈ l := (List.mem_cons.mp ha).resolve_left hab
        exact ⟨a, b, hab, ((List.singleton_sublist.mpr hlater).cons_cons b).cons_cons a⟩
    · obtain ⟨c, d, hcd, hsublist⟩ := ih hchain.tail hrest
      exact ⟨c, d, hcd, hsublist.cons a⟩

/-- What follows itself left out, an element stands in two places exactly where another one stood
between two places of it. -/
theorem nodup_eraseReps_iff {l : List α} :
    l.eraseReps.Nodup ↔ ∀ a b, a ≠ b → ¬[a, b, a].Sublist l := by
  constructor
  · intro hnodup a b hab hsublist
    have hchain : [a, b, a].IsChain (· ≠ ·) := .cons_cons hab (.cons_cons hab.symm (.singleton a))
    have hkept := hnodup.sublist (sublist_eraseReps_of_isChain hchain hsublist)
    simp at hkept
  · intro hnone
    by_contra hrepeats
    have hchain : l.eraseReps.IsChain (· ≠ ·) := by
      rw [eraseReps_eq_destutter]
      exact List.isChain_destutter _ l
    obtain ⟨a, b, hab, hsublist⟩ := exists_between_of_not_nodup hchain hrepeats
    rw [eraseReps_eq_destutter] at hsublist
    exact hnone a b hab (hsublist.trans (List.destutter_sublist _ l))

end

/-! ### Alike names in a sorted list -/

/-- In a list that was sorted stably a name stands between two places of another one exactly if
the two are alike and it stood there before. -/
theorem SortedStably.between_iff {xnames sorted : List String}
    (hsorted : SortedStably xnames sorted) {a b : String} :
    [a, b, a].Sublist sorted ↔ compare a b = .eq ∧ [a, b, a].Sublist xnames := by
  -- Names that are alike stand in both lists in the same places among each other.
  have halike : compare a b = .eq → ∀ l : List String, [a, b, a].Sublist l ↔
      [a, b, a].Sublist (l.filter fun c => compare a c = .eq) := by
    intro hab l
    have hself : compare a a = .eq := ReflCmp.compare_self
    have hkept : [a, b, a].filter (fun c => compare a c = .eq) = [a, b, a] := by
      simp [hab, hself]
    constructor
    · intro hsublist
      rw [← hkept]
      exact hsublist.filter _
    · exact fun hsublist => hsublist.trans List.filter_sublist
  constructor
  · intro hsublist
    have hordered := hsorted.ordered.sublist hsublist
    have hab : (compare a b).isLE = true := (List.pairwise_cons.mp hordered).1 b (by simp)
    have hba : (compare b a).isLE = true :=
      (List.pairwise_cons.mp (List.pairwise_cons.mp hordered).2).1 a (by simp)
    have heq : compare a b = .eq := OrientedCmp.isLE_antisymm hab hba
    rw [halike heq, hsorted.stable, ← halike heq] at hsublist
    exact ⟨heq, hsublist⟩
  · rintro ⟨heq, hsublist⟩
    rw [halike heq, hsorted.stable, ← halike heq]
    exact hsublist

/-! ### Cabinets -/

/-- The list names the cabinets among these names, in order and each of them once. -/
structure ListsCabinets (xnames listed : List String) : Prop where
  /-- The names of cabinets are listed, and no others. -/
  mem_iff : ∀ s, s ∈ listed ↔ s ∈ xnames ∧ kind? s = some .cabinet
  /-- None is listed twice. -/
  nodup : listed.Nodup
  /-- No name comes before one that it follows in the order. -/
  ordered : listed.Pairwise fun a b => (compare a b).isLE = true

/-- Between two places of a cabinet's name among these the cabinet is spelled in another way. -/
structure RespelledBetween (xnames : List String) (a b : String) : Prop where
  /-- The name is that of a cabinet. -/
  cabinet : kind? a = some .cabinet
  /-- The other spelling is one, too. -/
  otherCabinet : kind? b = some .cabinet
  /-- The two differ. -/
  ne : a ≠ b
  /-- The order does not tell them apart. -/
  alike : compare a b = .eq
  /-- The other spelling stands between two places of the name. -/
  between : [a, b, a].Sublist xnames

/-- The cabinets are listed, and nothing else is. -/
theorem mem_sortCabinets {xnames : List String} {s : String} :
    s ∈ sortCabinets xnames ↔ s ∈ xnames ∧ kind? s = some .cabinet := by
  rw [sortCabinets, mem_eraseReps, (sortedStably_sort _).perm.mem_iff, List.mem_filter,
    decide_eq_true_eq]

/-- The cabinets are listed in order. -/
theorem ordered_sortCabinets (xnames : List String) :
    (sortCabinets xnames).Pairwise fun a b => (compare a b).isLE = true := by
  rw [sortCabinets, eraseReps_eq_destutter]
  exact (sortedStably_sort _).ordered.sublist (List.destutter_sublist _ _)

/-- A name stands between two places of another one among the cabinets exactly if both are
cabinets and it stands there among all names. -/
theorem between_filter_iff {xnames : List String} {a b : String} :
    [a, b, a].Sublist (xnames.filter fun s => kind? s = some .cabinet) ↔
      kind? a = some .cabinet ∧ kind? b = some .cabinet ∧ [a, b, a].Sublist xnames := by
  constructor
  · intro hsublist
    have hcabinet : ∀ c ∈ [a, b, a], kind? c = some .cabinet := fun c hc =>
      of_decide_eq_true (List.mem_filter.mp (hsublist.mem hc)).2
    exact ⟨hcabinet a (by simp), hcabinet b (by simp), hsublist.trans List.filter_sublist⟩
  · rintro ⟨ha, hb, hsublist⟩
    have hkept : [a, b, a].filter (fun s => kind? s = some .cabinet) = [a, b, a] := by
      simp [ha, hb]
    rw [← hkept]
    exact hsublist.filter _

/-- No cabinet is listed twice exactly if none is respelled between two places of its name. -/
theorem nodup_sortCabinets_iff {xnames : List String} :
    (sortCabinets xnames).Nodup ↔ ∀ a b, ¬RespelledBetween xnames a b := by
  rw [sortCabinets, nodup_eraseReps_iff]
  refine forall₂_congr fun a b => ?_
  rw [(sortedStably_sort _).between_iff, between_filter_iff]
  constructor
  · intro hnone h
    exact hnone h.ne ⟨h.alike, h.cabinet, h.otherCabinet, h.between⟩
  · rintro hnone hne ⟨halike, ha, hb, hbetween⟩
    exact hnone ⟨ha, hb, hne, halike, hbetween⟩

/-- Any names: the cabinets among them are listed in order and nothing else is. Each of them is
listed once exactly if no cabinet is spelled in another way between two places of its name. -/
theorem listsCabinets_sortCabinets_iff (xnames : List String) :
    (∀ s, s ∈ sortCabinets xnames ↔ s ∈ xnames ∧ kind? s = some .cabinet) ∧
      (sortCabinets xnames).Pairwise (fun a b => (compare a b).isLE = true) ∧
      (ListsCabinets xnames (sortCabinets xnames) ↔ ∀ a b, ¬RespelledBetween xnames a b) := by
  refine ⟨fun _ => mem_sortCabinets, ordered_sortCabinets xnames, ?_⟩
  rw [← nodup_sortCabinets_iff]
  constructor
  · exact fun h => h.nodup
  · exact fun h => ⟨fun _ => mem_sortCabinets, h, ordered_sortCabinets xnames⟩

/-- A cabinet that is spelled with a zero in front between two places of its name is listed twice
under that name. -/
theorem not_forall_listsCabinets :
    ¬∀ xnames : List String, ListsCabinets xnames (sortCabinets xnames) := by
  intro h
  have hnodup := (h ["x1", "x01", "x1"]).nodup
  refine nodup_sortCabinets_iff.mp hnodup "x1" "x01" ⟨?_, ?_, ?_, ?_, ?_⟩
  · decide +kernel
  · decide +kernel
  · decide
  · decide +kernel
  · exact .refl _

end SitePlan.Xname
