import SitePlan.Proofs.Outcome
import SitePlan.Proofs.SortedMap
import SitePlan.Synthesis.Inventory

/-!
# Filing records

Records that are filed join those on file, each under its location name. So an inventory
holds exactly the records that were filed, and no two of one location.
-/

namespace SitePlan.Hardware.Inventory

open Outcome

/-- Every record is filed under its location name. -/
def Filed (inventory : Inventory) : Prop := ∀ e ∈ inventory.entries, e.1 = e.2.xname

/-- The empty inventory has no record in the wrong place. -/
theorem filed_empty : Filed .empty := by
  intro e he
  cases he

/-- The location names of records on file are the keys. -/
theorem Filed.keys_eq {inventory : Inventory} (hfiled : inventory.Filed) :
    inventory.values.map Record.xname = inventory.keys := by
  simp only [SortedMap.values, SortedMap.keys, List.map_map]
  exact List.map_congr_left fun e he => (hfiled e he).symm

/-- No two records on file have one location name. -/
theorem Filed.nodup_xnames {inventory : Inventory} (hfiled : inventory.Filed) :
    (inventory.values.map Record.xname).Nodup :=
  hfiled.keys_eq ▸ inventory.nodup_keys

/-- Records on file at one location are one record. -/
theorem Filed.eq_of_xname {inventory : Inventory} (hfiled : inventory.Filed) {a b : Record}
    (ha : a ∈ inventory.values) (hb : b ∈ inventory.values) (hxname : a.xname = b.xname) :
    a = b :=
  List.inj_on_of_nodup_map hfiled.nodup_xnames ha hb hxname

/-- A record on file is found by its location name. -/
theorem Filed.get?_xname {inventory : Inventory} (hfiled : inventory.Filed) {r : Record}
    (hr : r ∈ inventory.values) : inventory.get? r.xname = some r := by
  obtain ⟨⟨key, _⟩, he, rfl⟩ := List.mem_map.mp hr
  exact SortedMap.get?_eq_some_iff.mpr (hfiled _ he ▸ he)

/-- A record that is filed joins those on file. -/
theorem add_spec {inventory filed : Inventory} {record : Record} (hfiled : inventory.Filed)
    (hadd : inventory.add record = .ok filed) :
    filed.Filed ∧ filed.values.Perm (record :: inventory.values) := by
  unfold add at hadd
  split at hadd
  · cases hadd
  · next hnew =>
    cases hadd
    refine ⟨fun e he => ?_, SortedMap.perm_values_insert record (by simpa using hnew)⟩
    rcases SortedMap.mem_entries_of_insert he with rfl | hold
    · rfl
    · exact hfiled e hold

/-- Records that are filed one after another join those on file. -/
theorem addAll_spec {inventory filed : Inventory} {records : List Record}
    (hfiled : inventory.Filed) (hadd : inventory.addAll records = (.ok (), filed)) :
    filed.Filed ∧ filed.values.Perm (inventory.values ++ records) := by
  induction records generalizing inventory with
  | nil =>
    cases hadd
    exact ⟨hfiled, by simp⟩
  | cons record rest ih =>
    unfold addAll at hadd
    split at hadd
    · cases hadd
    · next next hnext =>
      obtain ⟨hfiled', hperm⟩ := add_spec hfiled hnext
      obtain ⟨hdone, hrest⟩ := ih hfiled' hadd
      refine ⟨hdone, hrest.trans ?_⟩
      exact (hperm.append_right rest).trans List.perm_middle.symm

end SitePlan.Hardware.Inventory

namespace SitePlan.Synthesis

open Hardware Outcome

/-- Records that must all be new join those on file. -/
theorem file_spec {inventory filed : Inventory} {records : List Record}
    (hfiled : inventory.Filed) (hfile : file inventory records = .ok filed) :
    filed.Filed ∧ filed.values.Perm (inventory.values ++ records) := by
  unfold file at hfile
  split at hfile
  · next hadd =>
    cases hfile
    exact Inventory.addAll_spec hfiled hadd
  · cases hfile

/-- Records can be filed exactly if no two of them, with those on file, are of one location. They
are then on file with the others, whatever the order in which they came. -/
theorem file_eq_ok {inventory filed : Inventory} {records : List Record} :
    file inventory records = .ok filed ↔
      (inventory.keys ++ records.map Record.xname).Nodup ∧
        filed.entries.Perm (inventory.entries ++ records.map fun r => (r.xname, r)) := by
  induction records generalizing inventory with
  | nil =>
    have hfile : file inventory [] = .ok inventory := rfl
    simp only [hfile, Except.ok.injEq, List.map_nil, List.append_nil, inventory.nodup_keys,
      true_and]
    exact ⟨fun h => h ▸ .refl _, fun h => (SortedMap.eq_of_perm h).symm⟩
  | cons r rest ih =>
    by_cases hold : inventory.contains r.xname = true
    · have hfile : file inventory (r :: rest) = .error (.hardware (.duplicateXname r.xname)) := by
        simp [file, Inventory.addAll, Inventory.add, hold]
      rw [hfile]
      simp only [reduceCtorEq, false_iff, List.map_cons]
      rintro ⟨hnodup, _⟩
      exact (List.nodup_append.mp hnodup).2.2 _ (SortedMap.contains_iff.mp hold) _
        List.mem_cons_self rfl
    · have hfile : file inventory (r :: rest) = file (inventory.insert r.xname r) rest := by
        simp [file, Inventory.addAll, Inventory.add, hold]
      have hentries := SortedMap.perm_entries_insert r (Bool.eq_false_iff.mpr hold)
      have hkeys : (inventory.insert r.xname r).keys.Perm (r.xname :: inventory.keys) :=
        hentries.map Prod.fst
      rw [hfile, ih, List.map_cons, List.map_cons]
      refine and_congr ?_ ⟨fun h => ?_, fun h => ?_⟩
      · exact ((hkeys.append_right _).trans List.perm_middle.symm).nodup_iff
      · exact h.trans ((hentries.append_right _).trans List.perm_middle.symm)
      · exact h.trans ((hentries.append_right _).trans List.perm_middle.symm).symm

/-- Records of locations of their own can be filed. -/
theorem exists_file {inventory : Inventory} {records : List Record}
    (hnodup : (inventory.keys ++ records.map Record.xname).Nodup) :
    ∃ filed, file inventory records = .ok filed := by
  refine ⟨_, file_eq_ok.mpr ⟨hnodup, SortedMap.perm_entries_ofList ?_⟩⟩
  rwa [List.map_append, List.map_map]

/-- Records that come in another order are filed alike. -/
theorem file_perm {inventory filed : Inventory} {records records' : List Record}
    (hperm : records.Perm records') :
    file inventory records = .ok filed ↔ file inventory records' = .ok filed := by
  rw [file_eq_ok, file_eq_ok]
  refine and_congr ((hperm.map Record.xname).append_left _).nodup_iff ?_
  have hentries := (hperm.map fun r => (r.xname, r)).append_left inventory.entries
  exact ⟨fun h => h.trans hentries, fun h => h.trans hentries.symm⟩

/-- An inventory can be made exactly if the records of the switches, of the racks and of the
liquid-cooled cabinets can, and can be filed in this order. -/
theorem inventory_eq_ok {inputs : Inputs} {nids : Nids} {rows : List Cabling.Row}
    {filed : Inventory} :
    (inventory inputs nids rows).1 = .ok filed ↔
      ∃ switches first racks second cabinets,
        switchHardware inputs = .ok switches ∧ file .empty switches = .ok first ∧
        (rackHardware inputs nids rows).1 = .ok racks ∧ file first racks = .ok second ∧
        (liquidCooledHardware inputs (rackHardware inputs nids rows).2).1 = .ok cabinets ∧
        file second cabinets = .ok filed := by
  unfold inventory
  constructor
  · intro hok
    split at hok
    · cases hok
    next first hfirst =>
    obtain ⟨switches, hswitches, hfirst⟩ := bind_eq_ok.mp hfirst
    dsimp only at hok
    split at hok
    · cases hok
    next second hsecond =>
    obtain ⟨racks, hracks, hsecond⟩ := bind_eq_ok.mp hsecond
    obtain ⟨cabinets, hcabinets, hthird⟩ := bind_eq_ok.mp hok
    exact ⟨switches, first, racks, second, cabinets, hswitches, hfirst, hracks, hsecond,
      hcabinets, hthird⟩
  · rintro ⟨switches, first, racks, second, cabinets, hswitches, hfirst, hracks, hsecond,
      hcabinets, hthird⟩
    rw [bind_eq_ok.mpr ⟨switches, hswitches, hfirst⟩]
    dsimp only
    rw [bind_eq_ok.mpr ⟨racks, hracks, hsecond⟩]
    exact bind_eq_ok.mpr ⟨cabinets, hcabinets, hthird⟩

/-- The inventory of a site holds the records of its switches, its racks and its
liquid-cooled cabinets. -/
theorem inventory_spec {inputs : Inputs} {nids : Nids} {rows : List Cabling.Row}
    {filed : Inventory} (hok : (inventory inputs nids rows).1 = .ok filed) :
    filed.Filed ∧ ∃ switches racks cabinets later,
      switchHardware inputs = .ok switches ∧
      rackHardware inputs nids rows = (.ok racks, later) ∧
      (liquidCooledHardware inputs later).1 = .ok cabinets ∧
      filed.values.Perm (switches ++ racks ++ cabinets) := by
  obtain ⟨switches, first, racks, second, cabinets, hswitches, hfirst, hracks, hsecond,
    hcabinets, hthird⟩ := inventory_eq_ok.mp hok
  obtain ⟨hfiled₁, hperm₁⟩ := file_spec Inventory.filed_empty hfirst
  obtain ⟨hfiled₂, hperm₂⟩ := file_spec hfiled₁ hsecond
  obtain ⟨hfiled₃, hperm₃⟩ := file_spec hfiled₂ hthird
  refine ⟨hfiled₃, switches, racks, cabinets, _, hswitches, Prod.ext hracks (by rfl), hcabinets, ?_⟩
  exact hperm₃.trans ((hperm₂.trans (hperm₁.append_right racks)).append_right cabinets)

end SitePlan.Synthesis
