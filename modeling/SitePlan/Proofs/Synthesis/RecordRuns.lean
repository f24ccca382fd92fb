import SitePlan.Proofs.Outcome
import SitePlan.Synthesis.Basic

/-!
# Runs that hand out numbers

Records are made of things one after another, with numbers that are counted on. A run succeeds if
each of its steps does, and then it has the records of each step. Where every step takes the same
count of numbers, the numbers that a step starts with follow from its place.
-/

namespace SitePlan

/-- Numbers that are skipped one after another are skipped together. -/
theorem NidSequence.skip_skip (nids : NidSequence) (count more : Nat) :
    (nids.skip count).skip more = nids.skip (count + more) := by
  simp only [skip, Nat.toUInt64_eq, UInt64.ofNat_add, UInt64.add_assoc]

/-- There is nothing to skip at the start. -/
theorem NidSequence.skip_zero (nids : NidSequence) : nids.skip 0 = nids := by
  simp [skip]

namespace Synthesis

open Hardware Outcome

variable {α β : Type} {recordsOf : NidSequence → α → Except Error (List Record) × NidSequence}
  {recordsOf' : NidSequence → β → Except Error (List Record) × NidSequence}

/-- A run begins with its first step, and goes on with the numbers that this has left. -/
theorem recordsOfEach_cons (nids : NidSequence) (a : α) (rest : List α) :
    recordsOfEach recordsOf nids (a :: rest) =
      match recordsOf nids a with
      | (.error fault, nids) => (.error fault, nids)
      | (.ok records, nids) =>
        match recordsOfEach recordsOf nids rest with
        | (.error fault, nids) => (.error fault, nids)
        | (.ok more, nids) => (.ok (records ++ more), nids) :=
  rfl

/-- A run succeeds where its first step does and the rest does after it. -/
theorem recordsOfEach_cons_eq_ok {nids last : NidSequence} {a : α} {rest : List α}
    {records : List Record} :
    recordsOfEach recordsOf nids (a :: rest) = (.ok records, last) ↔ ∃ piece later more,
      recordsOf nids a = (.ok piece, later) ∧
        recordsOfEach recordsOf later rest = (.ok more, last) ∧ records = piece ++ more := by
  rw [recordsOfEach_cons]
  obtain ⟨outcome, later⟩ := recordsOf nids a
  cases outcome with
  | error fault => simp
  | ok piece =>
    dsimp only
    generalize hrun : recordsOfEach recordsOf later rest = run
    obtain ⟨more, next⟩ := run
    cases more with
    | error fault => simp [hrun]
    | ok more => simp [hrun, eq_comm, and_comm]

/-- Where every step succeeds and takes the same count of numbers, so does the run: each step
starts with the numbers that are left at its place. -/
theorem exists_recordsOfEach {count : Nat} {Made : NidSequence → α → List Record → Prop}
    {as : List α}
    (hstep : ∀ nids, ∀ a ∈ as, ∃ piece,
      recordsOf nids a = (.ok piece, nids.skip count) ∧ Made nids a piece)
    (nids : NidSequence) (taken : Nat) :
    ∃ pieces : List (List Record),
      recordsOfEach recordsOf (nids.skip (count * taken)) as =
        (.ok pieces.flatten, nids.skip (count * (taken + as.length))) ∧
      List.Forall₂ (fun place piece => Made (nids.skip (count * place.2)) place.1 piece)
        (as.zipIdx taken) pieces := by
  induction as generalizing taken with
  | nil => exact ⟨[], rfl, .nil⟩
  | cons a rest ih =>
    obtain ⟨hfirst, hrest⟩ := List.forall_mem_cons.mp (fun b hb nids => hstep nids b hb)
    obtain ⟨piece, hpiece, hmade⟩ := hfirst (nids.skip (count * taken))
    obtain ⟨pieces, hpieces, hall⟩ := ih (fun nids b hb => hrest b hb nids) (taken + 1)
    rw [NidSequence.skip_skip, ← Nat.mul_succ] at hpiece
    refine ⟨piece :: pieces, ?_, .cons hmade hall⟩
    rw [List.length_cons, Nat.add_comm rest.length, ← Nat.add_assoc]
    exact recordsOfEach_cons_eq_ok.mpr ⟨piece, _, pieces.flatten, hpiece, hpieces, rfl⟩

/-- Where no step takes a number, each gives its records on its own. -/
theorem recordsOfEach_eq_mapM {nids : NidSequence} {as : List α}
    (hkept : ∀ a ∈ as, (recordsOf nids a).2 = nids) :
    recordsOfEach recordsOf nids as =
      ((as.mapM fun a => (recordsOf nids a).1).map List.flatten, nids) := by
  induction as with
  | nil => rfl
  | cons a rest ih =>
    obtain ⟨hfirst, hrest⟩ := List.forall_mem_cons.mp hkept
    rw [recordsOfEach_cons, List.mapM_cons]
    generalize recordsOf nids a = made at hfirst ⊢
    obtain ⟨outcome, later⟩ := made
    obtain rfl : nids = later := hfirst.symm
    cases outcome with
    | error fault => rfl
    | ok records =>
      dsimp only
      rw [ih hrest]
      cases rest.mapM fun b => (recordsOf nids b).1 <;> rfl

/-- Runs whose steps give the same records and take the same numbers do so too. -/
theorem recordsOfEach_congr {R : α → β → Prop}
    (hstep : ∀ nids a b, R a b → (recordsOf nids a).1.toOption = (recordsOf' nids b).1.toOption ∧
      (recordsOf nids a).2 = (recordsOf' nids b).2)
    {as : List α} {bs : List β} (hall : List.Forall₂ R as bs) (nids : NidSequence) :
    (recordsOfEach recordsOf nids as).1.toOption = (recordsOfEach recordsOf' nids bs).1.toOption ∧
      (recordsOfEach recordsOf nids as).2 = (recordsOfEach recordsOf' nids bs).2 := by
  induction hall generalizing nids with
  | nil => exact ⟨rfl, rfl⟩
  | @cons a b rest rest' hab _ ih =>
    obtain ⟨hfirst, hlater⟩ := hstep nids a b hab
    rw [recordsOfEach_cons, recordsOfEach_cons]
    rcases cases_of_state_eq hfirst hlater with
      ⟨_, _, later, ha, hb⟩ | ⟨records, later, ha, hb⟩
    · rw [ha, hb]
      exact ⟨rfl, rfl⟩
    rw [ha, hb]
    obtain ⟨hmore, hlast⟩ := ih later
    rcases cases_of_state_eq hmore hlast with
      ⟨_, _, last, hrest, hrest'⟩ | ⟨more, last, hrest, hrest'⟩
    · dsimp only
      rw [hrest, hrest']
      exact ⟨rfl, rfl⟩
    · dsimp only
      rw [hrest, hrest']
      exact ⟨rfl, rfl⟩

end Synthesis

end SitePlan
