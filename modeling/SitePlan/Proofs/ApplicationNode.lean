import SitePlan.Proofs.ApplicationNode.Normalizing

/-!
# Host names of a checked configuration

A configuration that passes its check gives no host name to two locations. The check walks
over the locations and notes the owner of every host name that it has seen. The locations that it
walks over are those that the site wrote down, in their canonical spelling.
-/

namespace SitePlan.ApplicationNode.Config

open Outcome

/-- Host names that are noted have this owner or had it before, and none of them had
another one. -/
theorem addOwners_spec {node : String} {owners later : SortedMap String}
    {names : List String} (hok : addOwners node owners names = .ok later) :
    (∀ name, later.get? name = if name ∈ names then some node else owners.get? name) ∧
      ∀ name ∈ names, ∀ owner ∈ owners.get? name, owner = node := by
  induction names generalizing owners with
  | nil =>
    cases hok
    simp
  | cons name rest ih =>
    unfold addOwners at hok
    split at hok
    · next owner howner =>
      split at hok
      · next hsame =>
        subst hsame
        obtain ⟨hlater, hrest⟩ := ih hok
        refine ⟨fun other => ?_, ?_⟩
        · rw [hlater other]
          by_cases hother : other = name
          · subst hother
            simp [howner]
          · simp [hother]
        · refine List.forall_mem_cons.mpr ⟨fun found hfound => ?_, hrest⟩
          exact Option.some.inj (hfound.symm.trans howner)
      · cases hok
    · next hnone =>
      obtain ⟨hlater, hrest⟩ := ih hok
      have hinsert : ∀ other, (owners.insert name node).get? other =
          if other = name then some node else owners.get? other := by
        intro other
        split
        · next heq => rw [heq, SortedMap.get?_insert_self]
        · next hne => exact SortedMap.get?_insert_of_ne _ _ hne
      refine ⟨fun other => ?_, ?_⟩
      · rw [hlater other, hinsert other]
        by_cases hother : other = name <;> simp [hother]
      · refine List.forall_mem_cons.mpr ⟨by simp [hnone], fun other hother owner howner => ?_⟩
        by_cases heq : other = name
        · rw [heq, hnone] at howner
          cases howner
        · exact hrest other hother owner (by rwa [hinsert, if_neg heq])

/-- Locations that pass the check share no host name with each other, and none with another
owner seen before. -/
theorem checkAliases_spec {owners : SortedMap String} {entries : List (String × List String)}
    (hok : checkAliases owners entries = .ok ()) :
    (entries.Pairwise fun a b => a.1 ≠ b.1 → ∀ name ∈ a.2, name ∉ b.2) ∧
      ∀ e ∈ entries, ∀ name ∈ e.2, ∀ owner ∈ owners.get? name, owner = e.1 := by
  induction entries generalizing owners with
  | nil => simp
  | cons head rest ih =>
    obtain ⟨node, names⟩ := head
    unfold checkAliases at hok
    split at hok
    · cases hok
    · split at hok
      · cases hok
      · next later hlater =>
        obtain ⟨hget, hown⟩ := addOwners_spec hlater
        obtain ⟨hapart, hrest⟩ := ih hok
        refine ⟨List.pairwise_cons.mpr ⟨?_, hapart⟩, List.forall_mem_cons.mpr ⟨hown, ?_⟩⟩
        · intro e he hne name hname hshared
          have howner := hrest e he name hshared node (by rw [hget, if_pos hname]; rfl)
          exact hne howner
        · intro e he name hname owner howner
          by_cases hmem : name ∈ names
          · -- Both locations have the host name, so its owner is both of them.
            have hnode := hown name hmem owner howner
            have he' := hrest e he name hname node (by rw [hget, if_pos hmem]; rfl)
            rw [hnode, he']
          · exact hrest e he name hname owner (by rwa [hget, if_neg hmem])
    · cases hok

/-- The host names of a location are those that are filed under it. -/
theorem mem_aliasesFor {c : Config} {xname name : String} :
    name ∈ c.aliasesFor xname ↔ ∃ names, (xname, names) ∈ c.aliases.entries ∧ name ∈ names := by
  simp only [aliasesFor, ← SortedMap.get?_eq_some_iff]
  cases c.aliases.get? xname <;> simp

/-- A checked configuration gives no host name to two locations. -/
theorem aliasesFor_disjoint {config : Config} (hvalid : config.validate = .ok ())
    {a b name : String} (hne : a ≠ b) (ha : name ∈ config.aliasesFor a) :
    name ∉ config.aliasesFor b := by
  obtain ⟨_, hcheck, _⟩ := bind_eq_ok.mp hvalid
  obtain ⟨hapart, _⟩ := checkAliases_spec hcheck
  intro hb
  obtain ⟨as, has, hina⟩ := mem_aliasesFor.mp ha
  obtain ⟨bs, hbs, hinb⟩ := mem_aliasesFor.mp hb
  have hreverse : config.aliases.entries.Pairwise fun x y =>
      y.1 ≠ x.1 → ∀ n ∈ y.2, n ∉ x.2 :=
    hapart.imp fun hxy hyx n hn hn' => hxy hyx.symm n hn' hn
  exact hapart.forall_of_forall_of_flip (fun _ _ hself => absurd rfl hself) hreverse has hbs hne
    name hina hinb

/-! ### Locations as they are written -/

/-- The site gives this host name to the location, however it spells the location. -/
def GivesName (site : Config) (xname name : String) : Prop :=
  ∃ written names, (written, names) ∈ site.aliases.entries ∧
    Xname.normalize written = xname ∧ name ∈ names

/-- The host names of a location are those that the site gives to it in some spelling. -/
theorem mem_aliasesFor_iff {site c : Config} (hnormal : site.normalize = .ok c)
    {xname name : String} : name ∈ c.aliasesFor xname ↔ site.GivesName xname name := by
  obtain ⟨hapart, rfl⟩ := normalize_eq_ok.mp hnormal
  simp only [mem_aliasesFor, normalized, SortedMap.mem_entries_mapKeys hapart.aliases, GivesName]
  constructor
  · rintro ⟨names, ⟨written, hentry, hwritten⟩, hname⟩
    exact ⟨written, names, hentry, hwritten, hname⟩
  · rintro ⟨written, names, hentry, hwritten, hname⟩
    exact ⟨names, ⟨written, hentry, hwritten⟩, hname⟩

end SitePlan.ApplicationNode.Config
