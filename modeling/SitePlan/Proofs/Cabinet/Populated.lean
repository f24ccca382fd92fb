import Mathlib.Data.List.Nodup
import SitePlan.Cabinet.Group

/-!
# Populated and validated cabinets

Validation accepts groups of known kinds in which no cabinet is repeated. In a populated
group each ID then has one entry of details, the one that was declared for it last, so a
declared entry survives unless another entry for its ID was declared after it.
-/

namespace SitePlan.Cabinet

/-! ### Validation -/

/-- The IDs of a group are added exactly if none is repeated and none was seen before. -/
theorem addIds_eq_ok {kind : String} {seen later : List (UInt32 × String)}
    {ids : List UInt32} :
    addIds kind seen ids = .ok later ↔
      ids.Nodup ∧ ids.Disjoint (seen.map Prod.fst) ∧
        later = ids.reverse.map (fun id => (id, kind)) ++ seen := by
  induction ids generalizing seen with
  | nil => simp [addIds, eq_comm]
  | cons id rest ih =>
    unfold addIds
    cases hseen : seen.lookup id with
    | some first =>
      have hmem : id ∈ seen.map Prod.fst := by
        obtain ⟨before, after, hsplit, _⟩ := List.lookup_eq_some_iff.mp hseen
        simp [hsplit]
      simp only [reduceCtorEq, List.disjoint_cons_left, hmem, not_true_eq_false, false_and,
        and_false]
    | none =>
      have hnew : id ∉ seen.map Prod.fst := by
        intro hmem
        obtain ⟨entry, hentry, rfl⟩ := List.mem_map.mp hmem
        simpa using List.lookup_eq_none_iff.mp hseen entry hentry
      simp only [ih, List.map_cons, List.disjoint_cons_right, List.nodup_cons,
        List.disjoint_cons_left, hnew, not_false_eq_true, true_and, List.reverse_cons,
        List.map_append, List.map_nil, List.append_assoc, List.cons_append, List.nil_append]
      tauto

/-- Groups are valid after others exactly if their kinds are known and none of their
cabinets is repeated or was seen before. -/
theorem validateAfter_eq_ok {seen : List (UInt32 × String)} {groups : List Group} :
    validateAfter seen groups = .ok () ↔
      (∀ g ∈ groups, g.hardwareClass?.isSome = true) ∧
        (groups.flatMap Group.cabinetIds).Nodup ∧
        (groups.flatMap Group.cabinetIds).Disjoint (seen.map Prod.fst) := by
  induction groups generalizing seen with
  | nil => simp [validateAfter]
  | cons g rest ih =>
    unfold validateAfter
    cases hclass : g.hardwareClass? with
    | none => simp [hclass]
    | some c =>
      rw [List.forall_mem_cons, List.flatMap_cons, List.nodup_append',
        List.disjoint_append_left, hclass]
      cases hadd : addIds g.kind seen g.cabinetIds with
      | error fault =>
        simp only [Option.isNone_some, Bool.false_eq_true, if_false, reduceCtorEq, false_iff]
        rintro ⟨_, ⟨hnodup, _⟩, hdisjoint, _⟩
        exact absurd (hadd.symm.trans (addIds_eq_ok.mpr ⟨hnodup, hdisjoint, rfl⟩)) (by simp)
      | ok later =>
        obtain ⟨hnodup, hdisjoint, rfl⟩ := addIds_eq_ok.mp hadd
        have hkeys : (g.cabinetIds.reverse.map (fun id => (id, g.kind)) ++ seen).map Prod.fst =
            g.cabinetIds.reverse ++ seen.map Prod.fst := by
          simp [Function.comp_def]
        have hreverse : (rest.flatMap Group.cabinetIds).Disjoint g.cabinetIds.reverse ↔
            g.cabinetIds.Disjoint (rest.flatMap Group.cabinetIds) := by
          rw [List.disjoint_comm]
          simp [List.Disjoint]
        simp only [Option.isNone_some, Bool.false_eq_true, if_false, ih, hkeys,
          List.disjoint_append_right, hreverse, hnodup, hdisjoint, Option.isSome_some,
          true_and]
        tauto

/-- Groups are valid exactly if their kinds are known and no cabinet is repeated. -/
theorem validate_eq_ok {groups : List Group} :
    validate groups = .ok () ↔
      (∀ g ∈ groups, g.hardwareClass?.isSome = true) ∧
        (groups.flatMap Group.cabinetIds).Nodup := by
  simp [validate, validateAfter_eq_ok]

/-- No cabinet of a valid group is repeated. -/
theorem nodup_cabinetIds_of_validate {groups : List Group} (hvalid : validate groups = .ok ())
    {g : Group} (hg : g ∈ groups) : g.cabinetIds.Nodup :=
  (List.nodup_flatMap.mp (validate_eq_ok.mp hvalid).2).1 g hg

/-- Cabinets of one ID in valid groups are one cabinet of one group. -/
theorem eq_of_id_of_validate {groups : List Group} (hvalid : validate groups = .ok ())
    {g g' : Group} (hg : g ∈ groups) (hg' : g' ∈ groups) {d d' : Detail}
    (hd : d ∈ g.details) (hd' : d' ∈ g'.details) (hid : d.id = d'.id) : g = g' ∧ d = d' := by
  have hpairs : (groups.flatMap fun g => g.details.map fun d => (g, d)).map
      (fun pair => pair.2.id) = groups.flatMap Group.cabinetIds := by
    simp only [List.map_flatMap, List.map_map]
    rfl
  have hnodup := (validate_eq_ok.mp hvalid).2
  rw [← hpairs] at hnodup
  have hmem : ∀ g ∈ groups, ∀ d ∈ g.details,
      (g, d) ∈ groups.flatMap fun g => g.details.map fun d => (g, d) :=
    fun g hg d hd => List.mem_flatMap.mpr ⟨g, hg, List.mem_map_of_mem hd⟩
  exact Prod.ext_iff.mp
    (List.inj_on_of_nodup_map hnodup (hmem g hg d hd) (hmem g' hg' d' hd') hid)

/-! ### Populated groups -/

namespace Group

/-- The IDs before stray details are added are kept, and every detail's ID is added. -/
theorem mem_addStrays {ids : List UInt32} {declared : List Detail} {id : UInt32} :
    id ∈ addStrays ids declared ↔ id ∈ ids ∨ ∃ d ∈ declared, d.id = id := by
  induction declared generalizing ids with
  | nil => simp [addStrays]
  | cons d rest ih =>
    rw [addStrays, ih]
    have hadded : id ∈ (if ids.contains d.id then ids else ids ++ [d.id]) ↔
        id ∈ ids ∨ d.id = id := by
      split
      · next hknown =>
        rw [List.contains_iff_mem] at hknown
        exact ⟨.inl, fun h => h.elim (fun hmem => hmem) (fun heq => heq ▸ hknown)⟩
      · rw [List.mem_append, List.mem_singleton, eq_comm]
    rw [hadded, or_assoc, List.exists_mem_cons_iff]

/-- The entry that a populated group has for an ID: the one declared last. -/
def lastDeclared (declared : List Detail) (id : UInt32) : Detail :=
  (declared.reverse.find? fun d => d.id = id).getD (.ofId id)

/-- Each ID gets the entry declared last for it, if no ID is repeated. -/
theorem detailsFor_eq_map {declared : List Detail} {ids : List UInt32} (hids : ids.Nodup) :
    detailsFor declared ids = ids.map (lastDeclared declared) := by
  induction ids generalizing declared with
  | nil => rfl
  | cons id rest ih =>
    obtain ⟨hfirst, hrest⟩ := List.nodup_cons.mp hids
    rw [detailsFor, ih hrest, List.map_cons]
    congr 1
    apply List.map_congr_left
    intro other hother
    have hne : other ≠ id := fun h => hfirst (h ▸ hother)
    -- The entries for the first ID are gone, but those for the other IDs are there.
    have hsame : (declared.filter fun d => d.id ≠ id).reverse.find? (fun d => d.id = other) =
        declared.reverse.find? fun d => d.id = other := by
      rw [← List.filter_reverse, List.find?_filter]
      congr 1
      funext d
      by_cases hd : d.id = other
      · simp [hd, hne]
      · simp [hd]
    simp only [lastDeclared, hsame]

/-- The entry for an ID is about it. -/
theorem id_lastDeclared (declared : List Detail) (id : UInt32) :
    (lastDeclared declared id).id = id := by
  unfold lastDeclared
  cases hfind : declared.reverse.find? fun d => d.id = id with
  | none => rfl
  | some d => simpa using List.find?_some hfind

/-- The entry for the ID of a declared one was declared. -/
theorem lastDeclared_mem {declared : List Detail} {d : Detail} (hd : d ∈ declared) :
    lastDeclared declared d.id ∈ declared := by
  unfold lastDeclared
  cases hfind : declared.reverse.find? fun e => e.id = d.id with
  | none => simpa using List.find?_eq_none.mp hfind d (List.mem_reverse.mpr hd)
  | some e => exact List.mem_reverse.mp (List.mem_of_find?_eq_some hfind)

/-- A populated group in which no ID is repeated has one entry for each ID that is asked for
or has a declared entry, the one that was declared last. -/
theorem mem_details_populate {g : Group} (hids : g.populate.cabinetIds.Nodup) {d : Detail} :
    d ∈ g.populate.details ↔
      (d.id ∈ g.declaredIds ∨ ∃ e ∈ g.details, e.id = d.id) ∧
        d = lastDeclared g.details d.id := by
  rw [cabinetIds_populate] at hids
  have hdetails : g.populate.details =
      (addStrays g.declaredIds g.details).map (lastDeclared g.details) :=
    detailsFor_eq_map hids
  rw [hdetails, List.mem_map, ← mem_addStrays]
  constructor
  · rintro ⟨id, hmem, rfl⟩
    rw [id_lastDeclared]
    exact ⟨hmem, rfl⟩
  · rintro ⟨hmem, heq⟩
    exact ⟨d.id, hmem, heq.symm⟩

/-- A declared entry survives exactly if it was declared last for its ID. -/
theorem mem_details_populate_of_declared {g : Group} (hids : g.populate.cabinetIds.Nodup)
    {d : Detail} (hd : d ∈ g.details) :
    d ∈ g.populate.details ↔ lastDeclared g.details d.id = d := by
  rw [mem_details_populate hids, eq_comm (a := d)]
  exact and_iff_right (.inr ⟨d, hd, rfl⟩)

/-- Every entry of details that was declared for the group is there after populating it. -/
def KeepsDetails (g : Group) : Prop := ∀ d ∈ g.details, d ∈ g.populate.details

/-- No two different entries of details are declared for one cabinet of the group. -/
def DeclaresOnce (g : Group) : Prop := ∀ d ∈ g.details, ∀ e ∈ g.details, d.id = e.id → d = e

/-- A group in which populating repeats no ID keeps its details exactly if no two of them
are about one cabinet. -/
theorem keepsDetails_iff {g : Group} (hids : g.populate.cabinetIds.Nodup) :
    g.KeepsDetails ↔ g.DeclaresOnce := by
  constructor
  · intro hkeeps d hd e he hid
    have hlast := (mem_details_populate_of_declared hids hd).mp (hkeeps d hd)
    rw [← hlast, hid, (mem_details_populate_of_declared hids he).mp (hkeeps e he)]
  · intro honce d hd
    rw [mem_details_populate_of_declared hids hd]
    exact honce _ (lastDeclared_mem hd) d hd (id_lastDeclared g.details d.id)

end Group

/-- Cabinets that are valid once populated keep every declared entry of details exactly if no
group declares two different ones for one cabinet. -/
theorem details_kept_iff {groups : List Group}
    (hvalid : validate (groups.map Group.populate) = .ok ()) :
    (∀ g ∈ groups, g.KeepsDetails) ↔ ∀ g ∈ groups, g.DeclaresOnce := by
  apply forall₂_congr
  intro g hg
  exact Group.keepsDetails_iff (nodup_cabinetIds_of_validate hvalid (List.mem_map_of_mem hg))

/-- A cabinet with details inside its group, and one outside it, keep theirs. -/
theorem details_kept_strayGroup :
    let group : Group :=
      { kind := "mountain"
        ids := [1000, 1001]
        details := [{ id := 1001, model := some "EX4000" }, { id := 1002, nmnVlan := some 7 }] }
    validate ([group].map Group.populate) = .ok () ∧ ∀ g ∈ [group], g.KeepsDetails := by
  intro group
  have hvalid : validate ([group].map Group.populate) = .ok () := by decide +kernel
  have honce : ∀ g ∈ [group], g.DeclaresOnce := by
    unfold Group.DeclaresOnce
    decide +kernel
  exact ⟨hvalid, (details_kept_iff hvalid).mpr honce⟩

/-- Of two entries for a cabinet that is listed by its ID the first one is lost. -/
theorem not_forall_details_kept :
    ¬∀ groups : List Group, validate (groups.map Group.populate) = .ok () →
      ∀ g ∈ groups, g.KeepsDetails := by
  intro h
  let group : Group :=
    { kind := "river"
      ids := [3000]
      details := [{ id := 3000, model := some "EX2500" }, { id := 3000 }] }
  have hkept := h [group] (by decide +kernel) group List.mem_cons_self
  revert hkept
  unfold Group.KeepsDetails
  decide +kernel

end SitePlan.Cabinet
