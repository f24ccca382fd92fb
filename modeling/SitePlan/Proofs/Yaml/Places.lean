import SitePlan.Yaml.Printer

/-!
# Places in a text

A place counts lines, columns and bytes. Written texts are read with the characters that stand in
one line: each of them takes a column and its bytes.
-/

namespace SitePlan.Yaml

/-! ### Characters in a line -/

/-- The characters are written as themselves and stay in one line. -/
def Inline (cs : List Char) : Prop := ∀ c ∈ cs, isWritten c = true ∧ isBreak c = false

instance : DecidablePred Inline :=
  List.decidableBAll fun c => isWritten c = true ∧ isBreak c = false

/-- Spaces are written as themselves. -/
theorem inline_spaces (n : Nat) : Inline (List.replicate n ' ') := by
  intro c hc
  rw [List.eq_of_mem_replicate hc]
  decide

/-- What is no white space is no line break. -/
theorem isBreak_eq_false_of_isGap {c : Char} (hc : isGap c = false) : isBreak c = false := by
  simp only [isGap, Bool.or_eq_false_iff] at hc
  exact hc.2

/-- White space within a line is kept. -/
theorem fold_eq_self {gap : List Char} (hgap : ∀ c ∈ gap, isBreak c = false) :
    fold gap = gap := by
  have hnone : gap.filter isBreak = [] := by
    rw [List.filter_eq_nil_iff]
    intro c hc
    simp [hgap c hc]
  rw [fold, hnone]

/-- White space within a line is kept, also when it is read newest first. -/
theorem reverse_fold_reverse {gap : List Char} (hgap : ∀ c ∈ gap, isBreak c = false) :
    (fold gap.reverse).reverse = gap := by
  rw [fold_eq_self (by simpa using hgap), List.reverse_reverse]

/-- White space within a line has no break. -/
theorem any_isBreak_eq_false {gap : List Char} (hgap : ∀ c ∈ gap, isBreak c = false) :
    gap.any isBreak = false := by
  simpa using hgap

/-! ### Places after characters -/

/-- The place after some characters. -/
def Place.afterAll (p : Place) (cs : List Char) : Place := cs.foldl Place.after p

@[simp] theorem Place.afterAll_nil (p : Place) : p.afterAll [] = p := rfl

@[simp] theorem Place.afterAll_cons (p : Place) (c : Char) (cs : List Char) :
    p.afterAll (c :: cs) = (p.after c).afterAll cs := rfl

@[simp] theorem Place.afterAll_append (p : Place) (cs ds : List Char) :
    p.afterAll (cs ++ ds) = (p.afterAll cs).afterAll ds := List.foldl_append

/-- A character that is no line break stays in its line. -/
theorem Place.line_after (p : Place) {c : Char} (hc : isBreak c = false) :
    (p.after c).line = p.line := by
  simp [Place.after, hc]

/-- A character takes its bytes. -/
theorem Place.index_after (p : Place) (c : Char) : (p.after c).index = p.index + c.utf8Size := by
  unfold Place.after
  split <;> rfl

/-- The next place in a line is one column further. -/
theorem Place.column_after (p : Place) {c : Char} (hc : isBreak c = false) :
    (p.after c).column = p.column + 1 := by
  simp [Place.after, hc]

/-- A place after a character is not the start of a line. -/
theorem Place.column_after_ne_zero (p : Place) {c : Char} (hc : isBreak c = false) :
    (p.after c).column ≠ 0 := by
  rw [p.column_after hc]
  omega

/-- Characters without a line break stay in their line. -/
theorem Place.line_afterAll (p : Place) {cs : List Char} (hcs : ∀ c ∈ cs, isBreak c = false) :
    (p.afterAll cs).line = p.line := by
  induction cs generalizing p with
  | nil => rfl
  | cons c cs ih =>
    obtain ⟨hc, hcs⟩ := List.forall_mem_cons.mp hcs
    rw [Place.afterAll_cons, ih _ hcs, p.line_after hc]

/-- Characters without a line break take a column each. -/
theorem Place.column_afterAll (p : Place) {cs : List Char} (hcs : ∀ c ∈ cs, isBreak c = false) :
    (p.afterAll cs).column = p.column + cs.length := by
  induction cs generalizing p with
  | nil => rfl
  | cons c cs ih =>
    obtain ⟨hc, hcs⟩ := List.forall_mem_cons.mp hcs
    rw [Place.afterAll_cons, ih _ hcs, p.column_after hc, List.length_cons]
    omega

/-- Characters take their bytes. -/
theorem Place.index_afterAll (p : Place) (cs : List Char) :
    (p.afterAll cs).index = p.index + (String.ofList cs).utf8ByteSize := by
  induction cs generalizing p with
  | nil => simp
  | cons c cs ih =>
    have hsplit : String.ofList (c :: cs) = String.singleton c ++ String.ofList cs := by
      rw [String.singleton_eq_ofList, ← String.ofList_append, List.singleton_append]
    rw [Place.afterAll_cons, ih, p.index_after, hsplit, String.utf8ByteSize_append,
      String.utf8ByteSize_singleton]
    omega

/-- The next line begins behind the line break. -/
theorem line_afterAll_newLine (place : Place) (n : Nat) :
    (place.afterAll ('\n' :: List.replicate n ' ')).line = place.line + 1 := by
  rw [Place.afterAll_cons, Place.line_afterAll _ fun c hc => (inline_spaces n c hc).2]
  rfl

/-- What stands in one line stands before the next one. -/
theorem line_lt_afterAll_newLine (place : Place) {cs : List Char}
    (hcs : ∀ c ∈ cs, isBreak c = false) (n : Nat) :
    place.line < ((place.afterAll cs).afterAll ('\n' :: List.replicate n ' ')).line := by
  rw [line_afterAll_newLine, place.line_afterAll hcs]
  exact Nat.lt_succ_self _

/-- The next line begins in the first column, and spaces take a column each. -/
theorem column_afterAll_newLine (place : Place) (n : Nat) :
    (place.afterAll ('\n' :: List.replicate n ' ')).column = n := by
  have hstart : (place.after '\n').column = 0 := rfl
  rw [Place.afterAll_cons, Place.column_afterAll _ fun c hc => (inline_spaces n c hc).2, hstart,
    List.length_replicate, Nat.zero_add]

end SitePlan.Yaml
