/-!
# Cutting text at a separator
-/

namespace SitePlan.Text

/-- The pieces of a text between the separators; there is one more piece than there are
separators. -/
def split (separator : Char) : List Char → List (List Char)
  | [] => [[]]
  | c :: rest =>
    if c = separator then [] :: split separator rest
    else
      match split separator rest with
      | piece :: pieces => (c :: piece) :: pieces
      | [] => [[c]]

/-- The lines of a text. A line break at the end of the text does not begin another one. -/
def lines (cs : List Char) : List (List Char) :=
  let pieces := split '\n' cs
  if pieces.getLast? = some [] then pieces.dropLast else pieces

/-- There is always a first piece. -/
theorem split_ne_nil (separator : Char) (cs : List Char) : split separator cs ≠ [] := by
  cases cs with
  | nil => simp [split]
  | cons c rest =>
    simp only [split]
    split
    · simp
    · split <;> simp

/-- A text is cut where the core library cuts lists. -/
theorem split_eq_splitOn (separator : Char) (cs : List Char) :
    split separator cs = cs.splitOn separator := by
  unfold List.splitOn
  induction cs with
  | nil => simp [split]
  | cons c rest ih =>
    rw [List.splitOnP_cons_eq_if_modifyHead, ← ih, split]
    obtain ⟨piece, pieces, hpieces⟩ := List.exists_cons_of_ne_nil (split_ne_nil separator rest)
    simp [hpieces]

/-- What holds of all characters in the pieces holds of all that are no separators. -/
theorem forall_mem_split_iff {separator : Char} {P : Char → Prop} {cs : List Char} :
    (∀ piece ∈ split separator cs, ∀ c ∈ piece, P c) ↔ ∀ c ∈ cs, c = separator ∨ P c := by
  induction cs with
  | nil => simp [split]
  | cons c rest ih =>
    rw [List.forall_mem_cons, ← ih, split]
    by_cases hc : c = separator
    · simp [hc]
    · obtain ⟨piece, pieces, hpieces⟩ := List.exists_cons_of_ne_nil (split_ne_nil separator rest)
      simp [hc, hpieces, and_assoc]

/-- A text without separators is one piece. -/
theorem split_of_not_mem {separator : Char} {cs : List Char} (hcs : separator ∉ cs) :
    split separator cs = [cs] := by
  induction cs with
  | nil => rfl
  | cons c cs ih =>
    rw [List.mem_cons, not_or] at hcs
    rw [split, if_neg (Ne.symm hcs.1), ih hcs.2]

/-- The piece in front of a separator is cut off. -/
theorem split_append {separator : Char} {cs : List Char} (hcs : separator ∉ cs)
    (rest : List Char) :
    split separator (cs ++ separator :: rest) = cs :: split separator rest := by
  induction cs with
  | nil => rw [List.nil_append, split, if_pos rfl]
  | cons c cs ih =>
    rw [List.mem_cons, not_or] at hcs
    rw [List.cons_append, split, if_neg (Ne.symm hcs.1), ih hcs.2]

/-- A text that is put together from pieces is cut into them. -/
theorem split_intercalate {separator : Char} {pieces : List (List Char)} (hsome : pieces ≠ [])
    (hpieces : ∀ piece ∈ pieces, separator ∉ piece) :
    split separator (List.intercalate [separator] pieces) = pieces := by
  induction pieces with
  | nil => exact absurd rfl hsome
  | cons piece rest ih =>
    obtain ⟨hpiece, hrest⟩ := List.forall_mem_cons.mp hpieces
    cases rest with
    | nil => rw [List.intercalate_singleton, split_of_not_mem hpiece]
    | cons other more =>
      rw [List.intercalate_cons_cons, List.append_assoc, List.singleton_append,
        split_append hpiece, ih (List.cons_ne_nil _ _) hrest]

end SitePlan.Text
