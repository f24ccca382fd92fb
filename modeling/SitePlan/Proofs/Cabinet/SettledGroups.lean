import SitePlan.Proofs.Cabinet.Populated

/-!
# Settled groups

Populating a group settles which cabinets it has. The IDs that its declaration asks for come
first, and the IDs of details for further cabinets follow in the order of the details. Every ID
has one entry of details, which is the one that was declared for it where there is one. A group
that is settled asks for the cabinets that it has, so populating it again leaves it as it is.
-/

namespace SitePlan.Cabinet.Group

/-! ### The IDs that a declaration asks for -/

/-- The IDs that the declaration of a group asks for. -/
inductive AsksFor (g : Group) : List UInt32 → Prop
  /-- IDs that are listed win over everything else. -/
  | listed (hids : g.ids ≠ []) : AsksFor g g.ids
  /-- Where no ID is listed, there may be details for as many cabinets as there should be. -/
  | detailed (hids : g.ids = []) (hdetails : g.details ≠ [])
      (henough : g.total ≤ g.details.length) : AsksFor g g.cabinetIds
  /-- Otherwise the IDs are counted from the first one. -/
  | counted {base : List UInt32} (hids : g.ids = [])
      (hfew : g.details = [] ∨ g.details.length < g.total)
      (hbase : base.map UInt32.toNat = List.range' g.startingId.toNat g.total) : AsksFor g base

/-- Counting does not come back to zero before the last ID. -/
theorem map_toNat_counted {first : UInt32} {count : Nat}
    (hroom : first.toNat + count < UInt32.size) :
    ((List.range count).map fun i => first + i.toUInt32).map UInt32.toNat =
      List.range' first.toNat count := by
  rw [List.range'_eq_map_range, List.map_map]
  apply List.map_congr_left
  intro i hi
  have hlt : i < count := List.mem_range.mp hi
  have hsmall : i.toUInt32.toNat = i := UInt32.toNat_ofNat_of_lt' (by omega)
  simp only [Function.comp_apply, UInt32.toNat_add, hsmall]
  exact Nat.mod_eq_of_lt (by unfold UInt32.size at hroom; omega)

/-- The declared IDs are the ones that the declaration asks for. -/
theorem asksFor_declaredIds {g : Group} (hroom : g.startingId.toNat + g.total < UInt32.size) :
    g.AsksFor g.declaredIds := by
  unfold declaredIds
  split_ifs with hids hdetails
  · exact .listed hids
  · obtain ⟨hsome, henough⟩ : g.details ≠ [] ∧ g.total ≤ g.details.length := by
      simpa using hdetails
    exact .detailed (not_not.mp hids) hsome henough
  · have hfew : g.details = [] ∨ g.details.length < g.total := by
      simpa [or_iff_not_imp_left] using hdetails
    exact .counted (not_not.mp hids) hfew (map_toNat_counted hroom)

/-- No ID is asked for twice, if none is listed twice and none has two entries of details. -/
theorem AsksFor.nodup {g : Group} {base : List UInt32} (hbase : g.AsksFor base)
    (hids : g.ids.Nodup) (hdetails : g.cabinetIds.Nodup) : base.Nodup := by
  cases hbase with
  | listed => exact hids
  | detailed => exact hdetails
  | counted _ _ hcount => exact List.Nodup.of_map UInt32.toNat (hcount ▸ List.nodup_range')

/-! ### The IDs and the entries of a settled group -/

/-- Details with different IDs add those of their IDs that are not there, in their order. -/
theorem addStrays_eq_append {ids : List UInt32} {declared : List Detail}
    (hdeclared : (declared.map Detail.id).Nodup) :
    addStrays ids declared = ids ++ (declared.map Detail.id).filter (· ∉ ids) := by
  induction declared generalizing ids with
  | nil => simp [addStrays]
  | cons d rest ih =>
    obtain ⟨hfirst, hrest⟩ := List.nodup_cons.mp hdeclared
    rw [addStrays, ih hrest, List.map_cons]
    by_cases hknown : d.id ∈ ids
    · rw [if_pos (List.contains_iff_mem.mpr hknown),
        List.filter_cons_of_neg (by simpa using hknown)]
    · rw [if_neg (by simpa using hknown), List.filter_cons_of_pos (by simpa using hknown),
        List.append_assoc, List.singleton_append]
      -- None of the later details is about the ID that is added here.
      have hsame : (rest.map Detail.id).filter (· ∉ ids ++ [d.id]) =
          (rest.map Detail.id).filter (· ∉ ids) := by
        apply List.filter_congr
        intro id hid
        have hne : id ≠ d.id := fun h => hfirst (h ▸ hid)
        simp [hne]
      rw [hsame]

/-- Details about IDs that are there add none. -/
theorem addStrays_eq_self {ids : List UInt32} {declared : List Detail}
    (hknown : ∀ d ∈ declared, d.id ∈ ids) : addStrays ids declared = ids := by
  induction declared with
  | nil => rfl
  | cons d rest ih =>
    obtain ⟨hfirst, hrest⟩ := List.forall_mem_cons.mp hknown
    rw [addStrays, if_pos (List.contains_iff_mem.mpr hfirst), ih hrest]

/-- An entry of details for an ID: the one that was declared for it, or one of which only the ID is
known, if none was declared. -/
def IsEntryFor (declared : List Detail) (id : UInt32) (d : Detail) : Prop :=
  (d ∈ declared ∧ d.id = id) ∨ (d = .ofId id ∧ ∀ e ∈ declared, e.id ≠ id)

/-- The entry declared last is an entry for its ID. -/
theorem isEntryFor_lastDeclared (declared : List Detail) (id : UInt32) :
    IsEntryFor declared id (lastDeclared declared id) := by
  by_cases hdeclared : ∃ d ∈ declared, d.id = id
  · obtain ⟨d, hd, rfl⟩ := hdeclared
    exact .inl ⟨lastDeclared_mem hd, id_lastDeclared declared d.id⟩
  · have hother : ∀ d ∈ declared, d.id ≠ id := fun d hd hid => hdeclared ⟨d, hd, hid⟩
    refine .inr ⟨?_, hother⟩
    have hnone : (declared.reverse.find? fun d => d.id = id) = none :=
      List.find?_eq_none.mpr fun d hd => by simpa using hother d (List.mem_reverse.mp hd)
    rw [lastDeclared, hnone, Option.getD_none]

/-- Where no two details are about one cabinet, a declared entry is the last one for its ID. -/
theorem lastDeclared_of_mem {declared : List Detail} (hdeclared : (declared.map Detail.id).Nodup)
    {d : Detail} (hd : d ∈ declared) : lastDeclared declared d.id = d :=
  List.inj_on_of_nodup_map hdeclared (lastDeclared_mem hd) hd (id_lastDeclared declared d.id)

/-- What a group becomes that asks for these IDs when it is settled. -/
structure SettledAs (g : Group) (base : List UInt32) (p : Group) : Prop where
  /-- The IDs asked for come first, and the IDs of further details follow in their order. -/
  ids_eq : p.ids = base ++ g.cabinetIds.filter (· ∉ base)
  /-- The entries of details are about these IDs, in this order. -/
  cabinetIds_eq : p.cabinetIds = base ++ g.cabinetIds.filter (· ∉ base)
  /-- No ID is repeated. -/
  nodup : p.ids.Nodup
  /-- The number of cabinets is the number of IDs. -/
  total_eq : p.total = p.ids.length
  /-- Every entry is the one that was declared for its ID, if there is one. -/
  entries : List.Forall₂ (IsEntryFor g.details) p.ids p.details
  /-- The kind is kept. -/
  kind_eq : p.kind = g.kind
  /-- The ID where counting starts is kept. -/
  startingId_eq : p.startingId = g.startingId

/-- A group that asks for different IDs and has no two details about one cabinet is settled when it
is populated. -/
theorem settledAs_populate {g : Group} (hbase : g.declaredIds.Nodup)
    (hdetails : g.cabinetIds.Nodup) : g.SettledAs g.declaredIds g.populate := by
  have hids : g.populate.ids = g.declaredIds ++ g.cabinetIds.filter (· ∉ g.declaredIds) :=
    addStrays_eq_append hdetails
  have hnodup : g.populate.ids.Nodup := by
    rw [hids]
    refine hbase.append (hdetails.filter _) ?_
    intro id hid hstray
    have hnew : id ∉ g.declaredIds := by simpa using List.of_mem_filter hstray
    exact hnew hid
  have hentries : g.populate.details = g.populate.ids.map (lastDeclared g.details) :=
    detailsFor_eq_map hnodup
  refine ⟨hids, (cabinetIds_populate g).trans hids, hnodup, rfl, ?_, rfl, rfl⟩
  rw [hentries, List.forall₂_map_right_iff]
  exact List.forall₂_same.mpr fun id _ => isEntryFor_lastDeclared g.details id

/-! ### Populating again -/

/-- A group that lists the IDs of its details asks for them. -/
theorem declaredIds_eq_ids {g : Group} (hids : g.cabinetIds = g.ids)
    (htotal : g.total = g.ids.length) : g.declaredIds = g.ids := by
  by_cases hlisted : g.ids = []
  · have hdetails : g.details = [] := List.map_eq_nil_iff.mp (hids.trans hlisted)
    simp [declaredIds, hlisted, hdetails, htotal]
  · rw [declaredIds, if_pos hlisted]

/-- A group is left as it is if it lists the IDs of its details, each once, and counts them. -/
theorem populate_eq_self {g : Group} (hids : g.cabinetIds = g.ids) (hnodup : g.ids.Nodup)
    (htotal : g.total = g.ids.length) : g.populate = g := by
  have hknown : ∀ d ∈ g.details, d.id ∈ g.ids := fun d hd => hids ▸ List.mem_map_of_mem hd
  have hsettled : addStrays g.declaredIds g.details = g.ids := by
    rw [declaredIds_eq_ids hids htotal, addStrays_eq_self hknown]
  have hentries : detailsFor g.details g.ids = g.details := by
    have hdetails : g.cabinetIds.Nodup := hids.symm ▸ hnodup
    rw [detailsFor_eq_map hnodup, ← hids, cabinetIds, List.map_map]
    conv_rhs => rw [← List.map_id g.details]
    apply List.map_congr_left
    intro d hd
    exact lastDeclared_of_mem hdetails hd
  rw [populate, hsettled, hentries, ← htotal]

/-- A settled group is left as it is when it is populated again. -/
theorem SettledAs.populate_eq_self {g p : Group} {base : List UInt32} (hp : g.SettledAs base p) :
    p.populate = p :=
  Group.populate_eq_self (hp.cabinetIds_eq.trans hp.ids_eq.symm) hp.nodup hp.total_eq

/-- Populating a group that lists no ID twice, has no two details about one cabinet and can count
to its last ID settles it with the IDs that it asks for, and populating it again changes nothing. -/
theorem populate_settles {g : Group} (hids : g.ids.Nodup) (hdetails : g.cabinetIds.Nodup)
    (hroom : g.startingId.toNat + g.total < UInt32.size) :
    g.AsksFor g.declaredIds ∧ g.SettledAs g.declaredIds g.populate ∧
      g.populate.populate = g.populate := by
  have hbase := asksFor_declaredIds hroom
  have hsettled := settledAs_populate (hbase.nodup hids hdetails) hdetails
  exact ⟨hbase, hsettled, hsettled.populate_eq_self⟩

/-- Three racks are counted out, and one of two declared entries is about a fourth. -/
theorem populate_settles_countedRacks :
    let g : Group :=
      { kind := "river"
        total := 3
        startingId := 3000
        details := [{ id := 3007, model := some "EX2500" }, { id := 3001, hmnVlan := some 1600 }] }
    g.declaredIds = [3000, 3001, 3002] ∧ g.populate.ids = [3000, 3001, 3002, 3007] ∧
      (g.AsksFor g.declaredIds ∧ g.SettledAs g.declaredIds g.populate ∧
        g.populate.populate = g.populate) := by
  intro g
  exact ⟨by decide +kernel, by decide +kernel,
    populate_settles (by decide) (by decide) (by decide)⟩

end SitePlan.Cabinet.Group
