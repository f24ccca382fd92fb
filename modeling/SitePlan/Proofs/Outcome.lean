import Mathlib.Data.List.Perm.Basic

/-!
# Successful computations

Carving, reserving and synthesis stop at the first fault. These lemmas take a computation
that succeeded apart into its steps, each of which succeeded.
-/

namespace SitePlan.Outcome

variable {ε ε' : Type u} {α β : Type v}

/-- A computation succeeds when its first step does and the rest does after it. -/
theorem bind_eq_ok {x : Except ε α} {f : α → Except ε β} {b : β} :
    (x >>= f) = .ok b ↔ ∃ a, x = .ok a ∧ f a = .ok b := by
  cases x with
  | error fault => simp [bind, Except.bind]
  | ok a => simp [bind, Except.bind]

/-- A computation that is seen to succeed has a result. -/
theorem exists_of_isOk {x : Except ε α} (hok : x.isOk = true) : ∃ a, x = .ok a := by
  cases x with
  | error fault => cases hok
  | ok a => exact ⟨a, rfl⟩

/-- A computation whose result is seen to pass a test has a result that passes it. -/
theorem exists_of_toOption_any {x : Except ε α} {test : α → Bool}
    (hok : x.toOption.any test = true) : ∃ a, x = .ok a ∧ test a = true := by
  cases x with
  | error fault => cases hok
  | ok a => exact ⟨a, rfl, hok⟩

/-- A computation without steps gives its value. -/
theorem pure_eq_ok {a b : α} : (pure a : Except ε α) = .ok b ↔ a = b := by
  simp [pure, Except.pure]

/-- A fault is not a success. -/
theorem throw_ne_ok {fault : ε} {a : α} : (throw fault : Except ε α) ≠ .ok a := by
  intro h
  cases h

/-- Rewording faults leaves successes alone. -/
theorem mapError_eq_ok {x : Except ε α} {f : ε → ε'} {a : α} :
    x.mapError f = .ok a ↔ x = .ok a := by
  cases x <;> simp [Except.mapError]

/-- Reworking the value leaves faults alone. -/
theorem map_eq_ok {x : Except ε α} {f : α → β} {b : β} :
    x.map f = .ok b ↔ ∃ a, x = .ok a ∧ f a = b := by
  cases x <;> simp [Except.map]

/-! ### Results up to the fault -/

/-- The result is the value of a success. -/
theorem toOption_eq_some_iff {x : Except ε α} {a : α} : x.toOption = some a ↔ x = .ok a := by
  cases x <;> simp [Except.toOption]

/-- Two computations have the same result exactly if they succeed alike. -/
theorem toOption_eq_iff {x : Except ε α} {y : Except ε' α} :
    x.toOption = y.toOption ↔ ∀ a, x = .ok a ↔ y = .ok a := by
  rw [Option.ext_iff]
  simp only [toOption_eq_some_iff]

/-- Two computations with the same result both stop at a fault or both give the same value. -/
theorem cases_of_toOption_eq {x : Except ε α} {y : Except ε' α}
    (h : x.toOption = y.toOption) :
    (∃ fault fault', x = .error fault ∧ y = .error fault') ∨ ∃ a, x = .ok a ∧ y = .ok a := by
  cases x with
  | error fault =>
    cases y with
    | error fault' => exact .inl ⟨fault, fault', rfl, rfl⟩
    | ok a => cases h
  | ok a => exact .inr ⟨a, rfl, (toOption_eq_iff.mp h a).mp rfl⟩

/-- Two computations with the same result and the same state after them both stop at a fault or
both give the same value. -/
theorem cases_of_state_eq {σ : Type w} {x : Except ε α × σ} {y : Except ε' α × σ}
    (hresult : x.1.toOption = y.1.toOption) (hstate : x.2 = y.2) :
    (∃ fault fault' s, x = (.error fault, s) ∧ y = (.error fault', s)) ∨
      ∃ a s, x = (.ok a, s) ∧ y = (.ok a, s) := by
  obtain ⟨x, s⟩ := x
  obtain ⟨y, _⟩ := y
  obtain rfl : s = _ := hstate
  rcases cases_of_toOption_eq hresult with ⟨fault, fault', rfl, rfl⟩ | ⟨a, rfl, rfl⟩
  · exact .inl ⟨fault, fault', s, rfl, rfl⟩
  · exact .inr ⟨a, s, rfl, rfl⟩

/-- The result of two steps is that of the second on that of the first. -/
@[simp] theorem toOption_bind (x : Except ε α) (f : α → Except ε β) :
    (x >>= f).toOption = x.toOption.bind fun a => (f a).toOption := by
  cases x <;> rfl

/-- Two steps have the result of two others that have the same results. -/
theorem toOption_bind_congr {x : Except ε α} {y : Except ε' α} {f : α → Except ε β}
    {g : α → Except ε' β} (hfirst : x.toOption = y.toOption)
    (hrest : ∀ a, (f a).toOption = (g a).toOption) :
    (x >>= f).toOption = (y >>= g).toOption := by
  rw [toOption_bind, toOption_bind, hfirst]
  exact congrArg _ (funext hrest)

/-- The result of a reworked value is the reworked result. -/
@[simp] theorem toOption_map (x : Except ε α) (f : α → β) :
    (x.map f).toOption = x.toOption.map f := by
  cases x <;> rfl

/-- The result of a reworked value is the reworked result, as a step of a computation too. -/
@[simp] theorem toOption_functorMap (x : Except ε α) (f : α → β) :
    (f <$> x).toOption = x.toOption.map f := by
  cases x <;> rfl

/-- The result does not depend on how a fault is worded. -/
@[simp] theorem toOption_mapError (x : Except ε α) (f : ε → ε') :
    (x.mapError f).toOption = x.toOption := by
  cases x <;> rfl

/-! ### Traversals -/

/-- A traversal succeeds exactly when it does so element by element. -/
theorem mapM_eq_ok {f : α → Except ε β} {l : List α} {results : List β} :
    l.mapM f = .ok results ↔ List.Forall₂ (fun a b => f a = .ok b) l results := by
  induction l generalizing results with
  | nil => cases results <;> simp [pure_eq_ok]
  | cons a l ih =>
    rw [List.mapM_cons, bind_eq_ok]
    constructor
    · rintro ⟨b, hb, hrest⟩
      obtain ⟨bs, hbs, hresults⟩ := bind_eq_ok.mp hrest
      obtain rfl := pure_eq_ok.mp hresults
      exact .cons hb (ih.mp hbs)
    · rintro (_ | ⟨hb, hbs⟩)
      exact ⟨_, hb, bind_eq_ok.mpr ⟨_, ih.mpr hbs, pure_eq_ok.mpr rfl⟩⟩

/-- A traversal whose elements all succeed has a result for each of them. -/
theorem exists_mapM_eq_ok {f : α → Except ε β} {R : α → β → Prop} {l : List α}
    (hall : ∀ a ∈ l, ∃ b, f a = .ok b ∧ R a b) :
    ∃ results, l.mapM f = .ok results ∧ List.Forall₂ R l results := by
  induction l with
  | nil => exact ⟨[], rfl, .nil⟩
  | cons a l ih =>
    rw [List.forall_mem_cons] at hall
    obtain ⟨⟨b, hb, hab⟩, hrest⟩ := hall
    obtain ⟨bs, hbs, hrelated⟩ := ih hrest
    exact ⟨b :: bs, mapM_eq_ok.mpr (.cons hb (mapM_eq_ok.mp hbs)), .cons hab hrelated⟩

/-- A traversal in another order succeeds too, with the same results in that order. -/
theorem exists_mapM_perm {f : α → Except ε β} {l l' : List α} {results : List β}
    (hperm : l.Perm l') (hok : l.mapM f = .ok results) :
    ∃ results', l'.mapM f = .ok results' ∧ results.Perm results' := by
  obtain ⟨results', hall, hresults⟩ :=
    List.perm_comp_forall₂ hperm.symm (mapM_eq_ok.mp hok)
  exact ⟨results', mapM_eq_ok.mpr hall, hresults.symm⟩

/-- What corresponds element by element has an element for each. -/
theorem exists_of_forall₂ {R : α → β → Prop} {l : List α} {results : List β}
    (hall : List.Forall₂ R l results) {b : β} (hb : b ∈ results) : ∃ a ∈ l, R a b := by
  induction hall with
  | nil => cases hb
  | @cons a _ _ _ ha _ ih =>
    rcases List.mem_cons.mp hb with rfl | hb
    · exact ⟨a, List.mem_cons_self, ha⟩
    · obtain ⟨a', ha', hfrom⟩ := ih hb
      exact ⟨a', List.mem_cons_of_mem _ ha', hfrom⟩

/-- What corresponds element by element in one value has the same list of values. -/
theorem map_eq_map_of_forall₂ {γ : Type w} {f : α → γ} {g : β → γ} {l : List α}
    {results : List β} (hall : List.Forall₂ (fun a b => f a = g b) l results) :
    l.map f = results.map g := by
  rw [← List.forall₂_eq_eq_eq, List.forall₂_map_left_iff, List.forall₂_map_right_iff]
  exact hall

/-! ### Faults -/

/-- The computation stops at no other faults than these. -/
def FailsOnly (P : ε → Prop) (x : Except ε α) : Prop := ∀ fault, x = .error fault → P fault

/-- A success stops at no fault. -/
theorem failsOnly_ok {P : ε → Prop} (a : α) : FailsOnly P (.ok a) := by
  rintro _ ⟨⟩

/-- A fault stops at itself. -/
theorem failsOnly_error {P : ε → Prop} {fault : ε} (hfault : P fault) :
    FailsOnly P (.error fault : Except ε α) := by
  rintro _ ⟨⟩
  exact hfault

/-- A computation that has a result stops at no fault. -/
theorem failsOnly_of_exists {P : ε → Prop} {x : Except ε α} (hok : ∃ a, x = .ok a) :
    FailsOnly P x := by
  obtain ⟨a, rfl⟩ := hok
  exact failsOnly_ok a

/-- A computation that stops at these faults only stops at more faults only. -/
theorem FailsOnly.mono {P Q : ε → Prop} {x : Except ε α} (hx : FailsOnly P x)
    (hfaults : ∀ fault, P fault → Q fault) : FailsOnly Q x :=
  fun fault hfault => hfaults fault (hx fault hfault)

/-- Reworded faults are those that the faults become. -/
theorem FailsOnly.mapError {P : ε → Prop} {Q : ε' → Prop} {x : Except ε α} {f : ε → ε'}
    (hx : FailsOnly P x) (hfaults : ∀ fault, P fault → Q (f fault)) :
    FailsOnly Q (x.mapError f) := by
  cases x with
  | error fault => exact failsOnly_error (hfaults fault (hx fault rfl))
  | ok a => exact failsOnly_ok a

/-- Reworded faults are among these if every fault becomes one of them. -/
theorem failsOnly_mapError {Q : ε' → Prop} {x : Except ε α} {f : ε → ε'}
    (hfaults : ∀ fault, Q (f fault)) : FailsOnly Q (x.mapError f) :=
  FailsOnly.mapError (P := fun _ => True) (fun _ _ => trivial) fun fault _ => hfaults fault

/-- Two steps stop at no other faults than each of them. -/
theorem FailsOnly.bind {P : ε → Prop} {x : Except ε α} {f : α → Except ε β}
    (hfirst : FailsOnly P x) (hrest : ∀ a, x = .ok a → FailsOnly P (f a)) :
    FailsOnly P (x >>= f) := by
  cases x with
  | error fault => exact failsOnly_error (hfirst fault rfl)
  | ok a => exact hrest a rfl

/-- Reworking the value brings in no faults. -/
theorem FailsOnly.map {P : ε → Prop} {x : Except ε α} (hx : FailsOnly P x) (f : α → β) :
    FailsOnly P (x.map f) := by
  cases x with
  | error fault => exact failsOnly_error (hx fault rfl)
  | ok a => exact failsOnly_ok (f a)

/-- A traversal stops at no other faults than its elements. -/
theorem failsOnly_mapM {P : ε → Prop} {f : α → Except ε β} {l : List α}
    (hall : ∀ a ∈ l, FailsOnly P (f a)) : FailsOnly P (l.mapM f) := by
  induction l with
  | nil => exact failsOnly_ok []
  | cons a l ih =>
    rw [List.forall_mem_cons] at hall
    rw [List.mapM_cons]
    exact hall.1.bind fun _ _ => (ih hall.2).bind fun _ _ => failsOnly_ok _

/-! ### Computations on a state -/

/-- A step that does not read the state ends the computation at its fault, in the state that it
found, or passes the state on. -/
theorem run_liftM_bind {ε σ α β : Type} (x : Except ε α)
    (f : α → ExceptT ε (StateM σ) β) (s : σ) :
    (liftM x >>= f : ExceptT ε (StateM σ) β).run.run s =
      match x with
      | .ok a => (f a).run.run s
      | .error fault => (.error fault, s) := by
  cases x with
  | error fault => rfl
  | ok a => rfl

/-! ### Computations that agree -/

/-- Two computations stop at the same fault, or both succeed and their results are related. -/
inductive Agree (R : α → β → Prop) : Except ε α → Except ε β → Prop
  | error (fault : ε) : Agree R (.error fault) (.error fault)
  | ok {a : α} {b : β} : R a b → Agree R (.ok a) (.ok b)

/-- Of two computations that agree the one succeeds exactly when the other does. -/
theorem Agree.succeeds_iff {R : α → β → Prop} {x : Except ε α} {y : Except ε β}
    (hagree : Agree R x y) : (∃ a, x = .ok a) ↔ ∃ b, y = .ok b := by
  cases hagree <;> simp

/-- The results of computations that agree are related. -/
theorem Agree.of_ok {R : α → β → Prop} {a : α} {b : β}
    (hagree : Agree R (.ok a : Except ε α) (.ok b)) : R a b := by
  cases hagree
  assumption

end SitePlan.Outcome
