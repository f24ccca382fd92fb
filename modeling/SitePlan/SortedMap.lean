/-!
# Values filed under text keys

A finite map whose entries are listed in key order, each key once. Keys compare by code
points. Since the order is part of the type, two maps with the same look-ups are equal.
-/

namespace SitePlan

/-- Values filed under text keys, in key order. -/
structure SortedMap (α : Type u) where
  /-- The entries. -/
  entries : List (String × α)
  /-- Keys increase strictly. -/
  sorted : entries.Pairwise fun a b => a.1 < b.1
  deriving DecidableEq

namespace SortedMap

variable {α : Type u} {β : Type v}

/-- The map without entries. -/
def empty : SortedMap α := ⟨[], .nil⟩

instance : Inhabited (SortedMap α) := ⟨empty⟩

/-- Adds an entry at its place, in the stead of an entry with the same key. -/
def insertEntry (key : String) (value : α) : List (String × α) → List (String × α)
  | [] => [(key, value)]
  | (k, v) :: rest =>
    if key < k then (key, value) :: (k, v) :: rest
    else if key = k then (key, value) :: rest
    else (k, v) :: insertEntry key value rest

/-- Every entry after an insertion is the new one or was there before. -/
theorem mem_of_mem_insertEntry {key : String} {value : α} {entries : List (String × α)}
    {e : String × α} (h : e ∈ insertEntry key value entries) :
    e = (key, value) ∨ e ∈ entries := by
  induction entries with
  | nil => simpa [insertEntry] using h
  | cons head rest ih =>
    obtain ⟨k, v⟩ := head
    simp only [insertEntry] at h
    split at h
    · simpa using h
    · split at h
      · rcases List.mem_cons.mp h with rfl | h
        · exact .inl rfl
        · exact .inr (List.mem_cons_of_mem _ h)
      · rcases List.mem_cons.mp h with rfl | h
        · exact .inr List.mem_cons_self
        · exact (ih h).imp id (List.mem_cons_of_mem _)

/-- Insertion keeps the order. -/
theorem pairwise_insertEntry {key : String} {value : α} {entries : List (String × α)}
    (h : entries.Pairwise fun a b => a.1 < b.1) :
    (insertEntry key value entries).Pairwise fun a b => a.1 < b.1 := by
  induction entries with
  | nil => simp [insertEntry]
  | cons head rest ih =>
    obtain ⟨k, v⟩ := head
    obtain ⟨hhead, hrest⟩ := List.pairwise_cons.mp h
    simp only [insertEntry]
    split
    · next hlt =>
      refine List.pairwise_cons.mpr ⟨fun e he => ?_, h⟩
      rcases List.mem_cons.mp he with rfl | he
      · exact hlt
      · exact String.lt_trans hlt (hhead e he)
    · next hnot =>
      split
      · next heq =>
        subst heq
        exact List.pairwise_cons.mpr ⟨hhead, hrest⟩
      · next hne =>
        refine List.pairwise_cons.mpr ⟨fun e he => ?_, ih hrest⟩
        rcases mem_of_mem_insertEntry he with rfl | he
        · rcases String.le_total key k with hle | hle
          · exact absurd (String.le_antisymm hle (String.not_lt.mp hnot)) hne
          · exact String.not_le.mp fun h' => hne (String.le_antisymm h' hle)
        · exact hhead e he

/-- Files a value under a key, in the stead of the value that was there. -/
def insert (m : SortedMap α) (key : String) (value : α) : SortedMap α :=
  ⟨insertEntry key value m.entries, pairwise_insertEntry m.sorted⟩

/-- The value filed under a key. -/
def get? (m : SortedMap α) (key : String) : Option α :=
  m.entries.lookup key

/-- A value is filed under the key. -/
def contains (m : SortedMap α) (key : String) : Bool :=
  (m.get? key).isSome

/-- The keys, in order. -/
def keys (m : SortedMap α) : List String := m.entries.map Prod.fst

/-- The values, in the order of their keys. -/
def values (m : SortedMap α) : List α := m.entries.map Prod.snd

/-- How many keys there are. -/
def size (m : SortedMap α) : Nat := m.entries.length

/-- The map of a list of entries; of several entries with one key the last one stays. -/
def ofList (entries : List (String × α)) : SortedMap α :=
  entries.foldl (fun m e => m.insert e.1 e.2) empty

/-- The map with every value replaced. -/
def map (f : α → β) (m : SortedMap α) : SortedMap β :=
  ⟨m.entries.map fun e => (e.1, f e.2), List.pairwise_map.mpr m.sorted⟩

/-- A key that was just filed leads to its value. -/
theorem get?_insert_self (m : SortedMap α) (key : String) (value : α) :
    (m.insert key value).get? key = some value := by
  simp only [get?, insert]
  induction m.entries with
  | nil => simp [insertEntry]
  | cons head rest ih =>
    obtain ⟨k, v⟩ := head
    simp only [insertEntry]
    split
    · simp
    · split
      · simp
      · next hne =>
        have hb : (key == k) = false := by simpa using hne
        simpa [List.lookup_cons, hb] using ih

/-- Filing a value leaves other keys alone. -/
theorem get?_insert_of_ne (m : SortedMap α) {key other : String} (value : α)
    (h : other ≠ key) : (m.insert key value).get? other = m.get? other := by
  have hb : (other == key) = false := by simpa using h
  simp only [get?, insert]
  induction m.entries with
  | nil => simp [insertEntry, List.lookup_cons, hb]
  | cons head rest ih =>
    obtain ⟨k, v⟩ := head
    simp only [insertEntry]
    split
    · simp [List.lookup_cons, hb]
    · split
      · next heq =>
        subst heq
        simp [List.lookup_cons, hb]
      · simp only [List.lookup_cons]
        split
        · rfl
        · exact ih

end SortedMap

end SitePlan
