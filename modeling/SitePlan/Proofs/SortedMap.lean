import Mathlib.Data.List.Forall2
import Mathlib.Data.List.Nodup
import SitePlan.SortedMap

/-!
# Look-ups and entries

The entries of a map say the same as its look-ups, since every key has one entry. A value
that is filed under a new key adds one entry and changes none.
-/

namespace SitePlan.SortedMap

variable {α : Type u} {β : Type v}

/-- Keys that increase strictly are not repeated. -/
theorem nodup_keys (m : SortedMap α) : m.keys.Nodup :=
  List.pairwise_map.mpr (m.sorted.imp String.ne_of_lt)

/-- A key leads to a value when there is an entry of both. -/
theorem get?_eq_some_iff {m : SortedMap α} {key : String} {value : α} :
    m.get? key = some value ↔ (key, value) ∈ m.entries := by
  have hkeys := m.nodup_keys
  simp only [get?, keys] at hkeys ⊢
  generalize m.entries = entries at hkeys ⊢
  induction entries with
  | nil => simp
  | cons head rest ih =>
    obtain ⟨k, v⟩ := head
    obtain ⟨hhead, hrest⟩ := List.nodup_cons.mp hkeys
    rw [List.lookup_cons, List.mem_cons]
    split
    · next heq =>
      obtain rfl : key = k := by simpa using heq
      have habsent : (key, value) ∉ rest := fun hmem =>
        hhead (List.mem_map.mpr ⟨_, hmem, rfl⟩)
      simp [habsent, eq_comm]
    · next hne =>
      have hkey : key ≠ k := by simpa using hne
      simpa [hkey] using ih hrest

/-- A key leads to a value when it is among the keys. -/
theorem contains_iff {m : SortedMap α} {key : String} :
    m.contains key = true ↔ key ∈ m.keys := by
  simp [contains, Option.isSome_iff_exists, get?_eq_some_iff, keys]

/-- A value adds its key to the keys. -/
theorem contains_insert {m : SortedMap α} {key other : String} {value : α} :
    (m.insert key value).contains other = true ↔ other = key ∨ m.contains other = true := by
  by_cases h : other = key
  · subst h
    simp [contains, get?_insert_self]
  · simp [contains, get?_insert_of_ne m value h, h]

/-- A value filed under a new key adds its entry to the others. -/
theorem perm_entries_insert {m : SortedMap α} {key : String} (value : α)
    (hnew : m.contains key = false) :
    (m.insert key value).entries.Perm ((key, value) :: m.entries) := by
  have habsent : ∀ e ∈ m.entries, key ≠ e.1 := by
    intro e he heq
    have hkey : key ∈ m.keys := heq ▸ List.mem_map_of_mem he
    rw [contains_iff.mpr hkey] at hnew
    cases hnew
  simp only [insert]
  generalize m.entries = entries at habsent ⊢
  induction entries with
  | nil => exact .refl _
  | cons head rest ih =>
    obtain ⟨k, v⟩ := head
    have hne : key ≠ k := habsent (k, v) List.mem_cons_self
    unfold insertEntry
    split
    · exact .refl _
    · exact ((ih fun e he => habsent e (List.mem_cons_of_mem _ he)).cons _).trans
        (.swap _ _ _)

/-- A value filed under a new key is added to the values. -/
theorem perm_values_insert {m : SortedMap α} {key : String} (value : α)
    (hnew : m.contains key = false) :
    (m.insert key value).values.Perm (value :: m.values) :=
  (perm_entries_insert value hnew).map Prod.snd

/-- Every entry of a map after filing a value is that one or was there before. -/
theorem mem_entries_of_insert {m : SortedMap α} {key : String} {value : α}
    {e : String × α} (he : e ∈ (m.insert key value).entries) :
    e = (key, value) ∨ e ∈ m.entries :=
  mem_of_mem_insertEntry he

/-- Two maps have the same keys, and what they file under one key is related. -/
def Corresponds (R : String → α → β → Prop) (m : SortedMap α) (k : SortedMap β) : Prop :=
  List.Forall₂ (fun e f => e.1 = f.1 ∧ R e.1 e.2 f.2) m.entries k.entries

/-- Filing related values under one key keeps maps in correspondence. -/
theorem Corresponds.insert {R : String → α → β → Prop} {m : SortedMap α} {k : SortedMap β}
    {key : String} {a : α} {b : β} (hmaps : m.Corresponds R k) (hvalues : R key a b) :
    (m.insert key a).Corresponds R (k.insert key b) := by
  simp only [Corresponds, SortedMap.insert] at hmaps ⊢
  generalize m.entries = es at hmaps ⊢
  generalize k.entries = fs at hmaps ⊢
  induction hmaps with
  | nil => exact .cons ⟨rfl, hvalues⟩ .nil
  | @cons e f es fs hhead hrest ih =>
    obtain ⟨name, v⟩ := e
    obtain ⟨_, w⟩ := f
    obtain ⟨rfl, hvw⟩ := hhead
    unfold insertEntry
    split
    · exact .cons ⟨rfl, hvalues⟩ (.cons ⟨rfl, hvw⟩ hrest)
    · split
      · exact .cons ⟨rfl, hvalues⟩ hrest
      · exact .cons ⟨rfl, hvw⟩ ih

/-- A list of entries files under a key what its last entry of that key says. -/
theorem get?_ofList (entries : List (String × α)) (key : String) :
    (ofList entries).get? key = entries.reverse.lookup key := by
  rw [ofList, List.foldl_eq_foldr_reverse]
  induction entries.reverse with
  | nil => rfl
  | cons e rest ih =>
    obtain ⟨name, value⟩ := e
    rw [List.foldr_cons, List.lookup_cons]
    by_cases hkey : key = name
    · rw [hkey, get?_insert_self, beq_self_eq_true]
    · rw [get?_insert_of_ne _ value hkey, ih, beq_eq_false_iff_ne.mpr hkey]

/-- Lists of entries that are related one by one file related values, under the same keys. -/
theorem rel_get?_ofList {R : α → β → Prop} {es : List (String × α)} {fs : List (String × β)}
    (hall : List.Forall₂ (fun e f => e.1 = f.1 ∧ R e.2 f.2) es fs) (key : String) :
    Option.Rel R ((ofList es).get? key) ((ofList fs).get? key) := by
  rw [get?_ofList, get?_ofList]
  rw [← List.forall₂_reverse_iff] at hall
  generalize es.reverse = es at hall
  generalize fs.reverse = fs at hall
  induction hall with
  | nil => exact .none
  | @cons e f _ _ hhead _ ih =>
    obtain ⟨name, a⟩ := e
    obtain ⟨_, b⟩ := f
    obtain ⟨rfl, hab⟩ := hhead
    rw [List.lookup_cons, List.lookup_cons]
    dsimp only
    cases key == name with
    | true => exact .some hab
    | false => exact ih

/-- What a list of entries files under a key is an entry of the list. -/
theorem mem_of_get?_ofList {entries : List (String × α)} {key : String} {value : α}
    (hget : (ofList entries).get? key = some value) : (key, value) ∈ entries := by
  rw [get?_ofList, List.lookup_eq_some_iff] at hget
  obtain ⟨before, after, hentries, _⟩ := hget
  rw [← List.mem_reverse, hentries]
  simp

/-- Entries of different keys are all filed. -/
theorem perm_entries_ofList {entries : List (String × α)}
    (hkeys : (entries.map Prod.fst).Nodup) : (ofList entries).entries.Perm entries := by
  rw [ofList, List.foldl_eq_foldr_reverse]
  refine .trans ?_ (List.reverse_perm entries)
  rw [← List.nodup_reverse, ← List.map_reverse] at hkeys
  generalize entries.reverse = latestFirst at hkeys ⊢
  induction latestFirst with
  | nil => exact .nil
  | cons e rest ih =>
    rw [List.map_cons, List.nodup_cons] at hkeys
    have hperm := ih hkeys.2
    refine .trans (perm_entries_insert e.2 ?_) (hperm.cons e)
    rw [Bool.eq_false_iff, Ne, contains_iff, keys, (hperm.map Prod.fst).mem_iff]
    exact hkeys.1

/-- Maps with the same entries in any order are the same. -/
theorem eq_of_perm {m k : SortedMap α} (hperm : m.entries.Perm k.entries) : m = k := by
  obtain ⟨es, hes⟩ := m
  obtain ⟨fs, hfs⟩ := k
  obtain rfl : es = fs := by
    refine hperm.eq_of_pairwise (fun a b _ _ hab hba => ?_) hes hfs
    exact absurd (String.lt_trans hab hba) (String.lt_irrefl _)
  rfl

/-- A map is made of its entries. -/
theorem ofList_entries (m : SortedMap α) : ofList m.entries = m :=
  eq_of_perm (perm_entries_ofList m.nodup_keys)

/-- Maps with the same look-ups are the same. -/
theorem eq_of_get? {m k : SortedMap α} (hget : ∀ key, m.get? key = k.get? key) : m = k := by
  have hnodup : ∀ m : SortedMap α, m.entries.Nodup := fun m => m.nodup_keys.of_map _
  refine eq_of_perm ((List.perm_ext_iff_of_nodup (hnodup m) (hnodup k)).mpr fun e => ?_)
  obtain ⟨key, value⟩ := e
  rw [← get?_eq_some_iff, hget, get?_eq_some_iff]

/-! ### Changed keys -/

/-- The map with every key changed. Of several entries whose keys become the same the last one
stays. -/
def mapKeys (change : String → String) (m : SortedMap α) : SortedMap α :=
  ofList (m.entries.map fun e => (change e.1, e.2))

/-- No entry is lost if all keys stay apart. -/
theorem perm_entries_mapKeys {change : String → String} {m : SortedMap α}
    (hkeys : (m.keys.map change).Nodup) :
    (m.mapKeys change).entries.Perm (m.entries.map fun e => (change e.1, e.2)) := by
  refine perm_entries_ofList ?_
  rw [keys, List.map_map] at hkeys
  rwa [List.map_map]

/-- Entries whose keys stay apart are found under their changed keys. -/
theorem mem_entries_mapKeys {change : String → String} {m : SortedMap α}
    (hkeys : (m.keys.map change).Nodup) {key : String} {value : α} :
    (key, value) ∈ (m.mapKeys change).entries ↔
      ∃ written, (written, value) ∈ m.entries ∧ change written = key := by
  rw [(perm_entries_mapKeys hkeys).mem_iff]
  simp

/-- Keys that stay apart are the changed ones. -/
theorem mem_keys_mapKeys {change : String → String} {m : SortedMap α}
    (hkeys : (m.keys.map change).Nodup) {key : String} :
    key ∈ (m.mapKeys change).keys ↔ ∃ written ∈ m.keys, change written = key := by
  rw [keys, ((perm_entries_mapKeys hkeys).map Prod.fst).mem_iff]
  simp [keys]

/-- Keys that are changed once and for all are not changed again. -/
theorem change_keys_mapKeys {change : String → String} {m : SortedMap α}
    (htwice : ∀ key, change (change key) = change key) (hkeys : (m.keys.map change).Nodup) :
    ∀ key ∈ (m.mapKeys change).keys, change key = key := by
  intro key hkey
  obtain ⟨written, _, rfl⟩ := (mem_keys_mapKeys hkeys).mp hkey
  exact htwice written

/-- Keys that are left alone leave the map alone. -/
theorem mapKeys_eq_self {change : String → String} {m : SortedMap α}
    (hkeys : ∀ key ∈ m.keys, change key = key) : m.mapKeys change = m := by
  have hentries : m.entries.map (fun e => (change e.1, e.2)) = m.entries := by
    conv_rhs => rw [← List.map_id m.entries]
    refine List.map_congr_left fun e he => ?_
    rw [hkeys e.1 (List.mem_map_of_mem he), id]
  rw [mapKeys, hentries, ofList_entries]

end SitePlan.SortedMap
