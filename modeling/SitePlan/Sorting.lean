/-!
# Stable sorting

A list is sorted by inserting its elements, the last one first, so elements that the order
does not tell apart stay in their order. The recursion follows the list, and the sorted
form of a concrete list can be computed inside a proof.
-/

namespace SitePlan

variable {α : Type u}

/-- Puts an element before the first one that it may precede. -/
def insertBy (le : α → α → Bool) (a : α) : List α → List α
  | [] => [a]
  | b :: rest => if le a b then a :: b :: rest else b :: insertBy le a rest

/-- The elements in order; elements that are equal in it keep their places. -/
def sortBy (le : α → α → Bool) (l : List α) : List α := l.foldr (insertBy le) []

/-- Inserting an element adds it and nothing else. -/
theorem insertBy_perm (le : α → α → Bool) (a : α) (l : List α) :
    (insertBy le a l).Perm (a :: l) := by
  induction l with
  | nil => exact .refl _
  | cons b rest ih =>
    unfold insertBy
    split
    · exact .refl _
    · exact (ih.cons b).trans (.swap a b rest)

/-- Sorting neither adds nor drops elements. -/
theorem sortBy_perm (le : α → α → Bool) (l : List α) : (sortBy le l).Perm l := by
  induction l with
  | nil => exact .refl _
  | cons a l ih => exact (insertBy_perm le a _).trans (ih.cons a)

/-- An element goes behind those that must precede it and before the next one. -/
theorem insertBy_append {le : α → α → Bool} {a : α} {before after : List α}
    (hbefore : ∀ b ∈ before, le a b = false) (hafter : ∀ b ∈ after, le a b = true) :
    insertBy le a (before ++ after) = before ++ a :: after := by
  induction before with
  | nil =>
    cases after with
    | nil => rfl
    | cons b rest => simp [insertBy, hafter b]
  | cons b before ih =>
    have hb := hbefore b List.mem_cons_self
    have hrest := ih fun b' hb' => hbefore b' (List.mem_cons_of_mem b hb')
    simp [insertBy, hb, hrest]

/-- For a total preorder this is the stable sort of the standard library. -/
theorem sortBy_eq_mergeSort {le : α → α → Bool} (trans : ∀ a b c, le a b → le b c → le a c)
    (total : ∀ a b, le a b || le b a) (l : List α) : sortBy le l = l.mergeSort le := by
  induction l with
  | nil => simp [sortBy]
  | cons a l ih =>
    obtain ⟨before, after, hcons, hrest, hbefore⟩ := List.mergeSort_cons trans total a l
    have hsorted := List.pairwise_mergeSort trans total (a :: l)
    rw [hcons] at hsorted
    have hafter := (List.pairwise_cons.mp (List.pairwise_append.mp hsorted).2.1).1
    calc sortBy le (a :: l) = insertBy le a (before ++ after) := by rw [← hrest, ← ih]; rfl
      _ = before ++ a :: after := insertBy_append (by simpa using hbefore) hafter
      _ = (a :: l).mergeSort le := hcons.symm

/-- A sorted list is in the order of a total preorder. -/
theorem pairwise_sortBy {le : α → α → Bool} (trans : ∀ a b c, le a b → le b c → le a c)
    (total : ∀ a b, le a b || le b a) (l : List α) :
    (sortBy le l).Pairwise fun a b => le a b := by
  rw [sortBy_eq_mergeSort trans total]
  exact List.pairwise_mergeSort trans total l

/-- Sorting forgets the order of elements that the order tells apart. -/
theorem sortBy_eq_of_perm {le : α → α → Bool} (trans : ∀ a b c, le a b → le b c → le a c)
    (total : ∀ a b, le a b || le b a) {l l' : List α} (hperm : l.Perm l')
    (hantisymm : ∀ a ∈ l, ∀ b ∈ l, le a b → le b a → a = b) : sortBy le l = sortBy le l' := by
  have hsorted : (sortBy le l).Perm (sortBy le l') :=
    (sortBy_perm le l).trans (hperm.trans (sortBy_perm le l').symm)
  refine hsorted.eq_of_pairwise (fun a b ha hb => ?_) (pairwise_sortBy trans total l)
    (pairwise_sortBy trans total l')
  have ha' := (sortBy_perm le l).mem_iff.mp ha
  have hb' := (sortBy_perm le l).mem_iff.mp (hsorted.mem_iff.mpr hb)
  exact hantisymm a ha' b hb'

end SitePlan
