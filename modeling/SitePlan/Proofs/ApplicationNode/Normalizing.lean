import SitePlan.ApplicationNode
import SitePlan.Proofs.Outcome
import SitePlan.Proofs.SortedMap
import SitePlan.Proofs.Xname.CanonicalForm

/-!
# Normalized configurations

Normalizing puts beginnings in lower case and locations in their canonical spelling. It succeeds
exactly if nothing becomes the same by that. Then everything is kept under its new key, and
normalizing again changes nothing; otherwise the configuration stays as it is.
-/

namespace SitePlan.ApplicationNode.Config

open Outcome

/-! ### The parts -/

/-- Beginnings are put in lower case if they stay apart from each other and from those seen
before. -/
theorem lowerAll_eq_ok {seen ps lowered : List String} :
    lowerAll seen ps = .ok lowered ↔
      (ps.map Text.lowerText).Nodup ∧ (∀ p ∈ ps, Text.lowerText p ∉ seen) ∧
        lowered = ps.map Text.lowerText := by
  induction ps generalizing seen lowered with
  | nil => simp [lowerAll, eq_comm]
  | cons p rest ih =>
    rw [List.map_cons, List.nodup_cons, List.forall_mem_cons]
    constructor
    · intro hok
      unfold lowerAll at hok
      dsimp only at hok
      split at hok
      · cases hok
      · next hnew =>
        split at hok
        · cases hok
        · next more hmore =>
          obtain ⟨hnodup, hrest, rfl⟩ := ih.mp hmore
          obtain rfl := Except.ok.inj hok
          simp only [List.mem_cons, not_or] at hrest
          refine ⟨⟨fun hmem => ?_, hnodup⟩, ⟨by simpa using hnew, fun q hq => (hrest q hq).2⟩, rfl⟩
          obtain ⟨q, hq, hsame⟩ := List.mem_map.mp hmem
          exact (hrest q hq).1 hsame
    · rintro ⟨⟨hfirst, hnodup⟩, ⟨hnew, hrest⟩, rfl⟩
      have hmore : lowerAll (Text.lowerText p :: seen) rest = .ok (rest.map Text.lowerText) := by
        refine ih.mpr ⟨hnodup, fun q hq => ?_, rfl⟩
        rw [List.mem_cons, not_or]
        exact ⟨fun hsame => hfirst (hsame ▸ List.mem_map_of_mem hq), hrest q hq⟩
      simp [lowerAll, hnew, hmore]

section

variable {α : Type} {field : String} {change : String → String} {m later : SortedMap α}

/-- Entries are added to a map under changed keys if these stay apart from each other and from
those that the map has. -/
theorem rekeyInto_eq_ok {entries : List (String × α)} :
    rekeyInto field change m entries = .ok later ↔
      (entries.map fun e => change e.1).Nodup ∧
        (∀ e ∈ entries, m.contains (change e.1) = false) ∧
        later = (entries.map fun e => (change e.1, e.2)).foldl (fun m e => m.insert e.1 e.2) m := by
  induction entries generalizing m with
  | nil =>
    rw [rekeyInto, Except.ok.injEq]
    simp [eq_comm (a := m)]
  | cons e rest ih =>
    obtain ⟨key, value⟩ := e
    have hinsert : ∀ e : String × α, (m.insert (change key) value).contains (change e.1) = false ↔
        change e.1 ≠ change key ∧ m.contains (change e.1) = false := by
      intro e
      rw [Bool.eq_false_iff, ne_eq, SortedMap.contains_insert, not_or, Bool.not_eq_true]
    have hapart : (∀ e ∈ rest, change e.1 ≠ change key) ↔
        change key ∉ rest.map fun e => change e.1 := by
      simp [eq_comm]
    rw [List.map_cons, List.map_cons, List.nodup_cons, List.forall_mem_cons, List.foldl_cons]
    unfold rekeyInto
    split
    · next hold => simp [hold]
    · next hnew =>
      rw [Bool.not_eq_true] at hnew
      simp only [ih, hinsert, forall_and, hapart, hnew, true_and]
      tauto

/-- The keys of a map are changed if they stay apart. -/
theorem rekey_eq_ok :
    rekey field change m = .ok later ↔ (m.keys.map change).Nodup ∧ later = m.mapKeys change := by
  have hnone : ∀ e ∈ m.entries, (SortedMap.empty : SortedMap α).contains (change e.1) = false :=
    fun _ _ => rfl
  rw [rekey, rekeyInto_eq_ok, and_iff_right hnone, SortedMap.keys, List.map_map]
  rfl

end

/-! ### The whole configuration -/

/-- What the configuration tells apart stays apart when it is normalized. -/
structure StaysApart (c : Config) : Prop where
  /-- No two beginnings are the same in lower case. -/
  prefixes : (c.prefixes.map Text.lowerText).Nodup
  /-- No two beginnings with subroles are the same in lower case. -/
  subRoles : (c.subRoles.keys.map Text.lowerText).Nodup
  /-- No two locations with host names have one canonical spelling. -/
  aliases : (c.aliases.keys.map Xname.normalize).Nodup

/-- The configuration with beginnings in lower case and locations in canonical spelling. -/
def normalized (c : Config) : Config where
  prefixes := c.prefixes.map Text.lowerText
  subRoles := c.subRoles.mapKeys Text.lowerText
  aliases := c.aliases.mapKeys Xname.normalize

/-- A configuration is normalized if everything in it stays apart. -/
theorem normalize_eq_ok {c d : Config} :
    c.normalize = .ok d ↔ c.StaysApart ∧ d = c.normalized := by
  constructor
  · intro hok
    obtain ⟨prefixes, hlowered, hok⟩ := bind_eq_ok.mp hok
    obtain ⟨subRoles, hrekeyed, hok⟩ := bind_eq_ok.mp hok
    obtain ⟨aliases, hrespelled, hok⟩ := bind_eq_ok.mp hok
    obtain ⟨hprefixes, _, rfl⟩ := lowerAll_eq_ok.mp hlowered
    obtain ⟨hsubRoles, rfl⟩ := rekey_eq_ok.mp hrekeyed
    obtain ⟨haliases, rfl⟩ := rekey_eq_ok.mp hrespelled
    exact ⟨⟨hprefixes, hsubRoles, haliases⟩, (pure_eq_ok.mp hok).symm⟩
  · rintro ⟨⟨hprefixes, hsubRoles, haliases⟩, rfl⟩
    refine bind_eq_ok.mpr ⟨_, lowerAll_eq_ok.mpr ⟨hprefixes, by simp, rfl⟩, ?_⟩
    refine bind_eq_ok.mpr ⟨_, rekey_eq_ok.mpr ⟨hsubRoles, rfl⟩, ?_⟩
    exact bind_eq_ok.mpr ⟨_, rekey_eq_ok.mpr ⟨haliases, rfl⟩, rfl⟩

/-- Normalizing in place replaces the configuration if it can be normalized, and otherwise
leaves it alone: the first part is replaced when nothing can fail any more. -/
theorem normalizeInPlace_eq (c : Config) :
    c.normalizeInPlace =
      match c.normalize with
      | .ok d => (.ok (), d)
      | .error fault => (.error fault, c) := by
  change (liftM (lowerAll [] c.prefixes) >>= _ : ExceptT Error (StateM Config) Unit).run.run c = _
  rw [run_liftM_bind, normalize]
  cases lowerAll [] c.prefixes with
  | error fault => rfl
  | ok prefixes =>
    dsimp only
    rw [run_liftM_bind]
    cases rekey "prefix_hsm_subroles" Text.lowerText c.subRoles with
    | error fault => rfl
    | ok subRoles =>
      dsimp only
      rw [run_liftM_bind]
      cases rekey "aliases" Xname.normalize c.aliases with
      | error fault => rfl
      | ok aliases => rfl

/-- Normalizing in place succeeds if everything stays apart, with the normalized configuration. -/
theorem normalizeInPlace_eq_ok {c d : Config} :
    c.normalizeInPlace = (.ok (), d) ↔ c.StaysApart ∧ d = c.normalized := by
  rw [← normalize_eq_ok, normalizeInPlace_eq]
  cases c.normalize with
  | error fault => simp
  | ok e => simp

/-- What is normalized can be normalized again, which leaves it alone. -/
theorem StaysApart.normalized {c : Config} (hapart : c.StaysApart) :
    c.normalized.StaysApart ∧ c.normalized.normalized = c.normalized := by
  have hprefixes : (c.prefixes.map Text.lowerText).map Text.lowerText =
      c.prefixes.map Text.lowerText := by
    rw [List.map_map]
    exact List.map_congr_left fun p _ => Text.lowerText_lowerText p
  have hsubRoles := SortedMap.change_keys_mapKeys Text.lowerText_lowerText hapart.subRoles
  have haliases := SortedMap.change_keys_mapKeys Xname.normalize_normalize hapart.aliases
  refine ⟨⟨?_, ?_, ?_⟩, ?_⟩
  · rw [Config.normalized, hprefixes]
    exact hapart.prefixes
  · rw [Config.normalized, List.map_congr_left hsubRoles, List.map_id']
    exact SortedMap.nodup_keys _
  · rw [Config.normalized, List.map_congr_left haliases, List.map_id']
    exact SortedMap.nodup_keys _
  · rw [Config.normalized, Config.normalized, hprefixes, SortedMap.mapKeys_eq_self hsubRoles,
      SortedMap.mapKeys_eq_self haliases]

/-- All that the one configuration holds is found in the other one under normalized keys: the
beginnings in their order, and as many subroles and lists of host names, with the same values. -/
structure KeptIn (c d : Config) : Prop where
  prefixes : d.prefixes = c.prefixes.map Text.lowerText
  subRoles : d.subRoles.entries.Perm (c.subRoles.entries.map fun e => (Text.lowerText e.1, e.2))
  aliases : d.aliases.entries.Perm (c.aliases.entries.map fun e => (Xname.normalize e.1, e.2))

/-- Normalizing in place is exact. It succeeds exactly if all beginnings and locations stay apart.
A fault leaves the configuration as it was. After a success everything is kept under its
normalized key, and normalizing once more succeeds and changes nothing. -/
theorem normalizeInPlace_exact (c : Config) :
    ((∃ d, c.normalizeInPlace = (.ok (), d)) ↔ c.StaysApart) ∧
      (∀ fault d, c.normalizeInPlace = (.error fault, d) → d = c) ∧
      ∀ d, c.normalizeInPlace = (.ok (), d) →
        c.KeptIn d ∧ d.normalizeInPlace = (.ok (), d) := by
  refine ⟨?_, fun fault d herror => ?_, fun d hok => ?_⟩
  · simp only [normalizeInPlace_eq_ok, exists_and_left, exists_eq, and_true]
  · rw [normalizeInPlace_eq] at herror
    split at herror
    · cases herror
    · exact (congrArg Prod.snd herror).symm
  · obtain ⟨hapart, rfl⟩ := normalizeInPlace_eq_ok.mp hok
    obtain ⟨hagain, hsame⟩ := hapart.normalized
    exact ⟨⟨rfl, SortedMap.perm_entries_mapKeys hapart.subRoles,
        SortedMap.perm_entries_mapKeys hapart.aliases⟩,
      normalizeInPlace_eq_ok.mpr ⟨hagain, hsame.symm⟩⟩

/-- A configuration typed with capitals and padding. -/
def typedConfig : Config where
  prefixes := ["UAN", "Gateway"]
  subRoles := .ofList [("Gateway", "Gateway"), ("UAN", "UAN")]
  aliases := .ofList [("X3000C0S02B0N0", ["uan02"]), ("x3000c0s1b0n0", ["uan01", "uan01-nmn"])]

/-- Two spellings of one location, next to a beginning with a capital. -/
def collidingConfig : Config where
  prefixes := ["UAN"]
  aliases := .ofList [("x3000c0s01b0n0", ["uan01"]), ("x3000c0s1b0n0", ["uan02"])]

/-- The typed configuration is normalized once and for all. Where two locations collide, the
beginnings keep their capitals, though these were put in lower case before. -/
theorem normalizeInPlace_exact_typedConfigs :
    (∃ d, typedConfig.normalizeInPlace = (.ok (), d) ∧ d.prefixes = ["uan", "gateway"] ∧
      typedConfig.KeptIn d ∧ d.normalizeInPlace = (.ok (), d)) ∧
    collidingConfig.normalizeInPlace =
      (.error (.collision "aliases" "x3000c0s1b0n0"), collidingConfig) := by
  have hapart : typedConfig.StaysApart :=
    ⟨by decide +kernel, by decide +kernel, by decide +kernel⟩
  obtain ⟨d, hok⟩ := (normalizeInPlace_exact typedConfig).1.mpr hapart
  obtain ⟨hkept, hagain⟩ := (normalizeInPlace_exact typedConfig).2.2 d hok
  have hfault : (collidingConfig.normalizeInPlace).1 =
      .error (.collision "aliases" "x3000c0s1b0n0") := by decide +kernel
  refine ⟨⟨d, hok, ?_, hkept, hagain⟩, Prod.ext hfault ?_⟩
  · rw [hkept.prefixes]
    decide +kernel
  · exact (normalizeInPlace_exact collidingConfig).2.1 _ _ (Prod.ext hfault rfl)

end SitePlan.ApplicationNode.Config
