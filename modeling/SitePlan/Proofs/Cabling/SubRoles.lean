import SitePlan.Cabling.Device
import SitePlan.Proofs.ApplicationNode.Normalizing

/-!
# Subroles of application nodes

What an application node is for follows from the first beginning that its source name has,
among those of the site and then the built-in ones. A configuration that passes its check has a
subrole for each of them, and none of these is the placeholder that a site has to replace.
-/

namespace SitePlan

/-! ### Checked configurations -/

namespace ApplicationNode

/-- Every built-in beginning has a built-in subrole. -/
theorem isSome_builtInSubRole :
    ∀ p ∈ builtInPrefixes, (builtInSubRoles.lookup p).isSome = true := by
  decide

/-- No built-in subrole is the placeholder. -/
theorem builtInSubRole_ne_placeholder {p s : String} (hs : builtInSubRoles.lookup p = some s) :
    s ≠ placeholder := by
  have hreal : ∀ e ∈ builtInSubRoles, e.2 ≠ placeholder := by decide
  obtain ⟨before, after, hentries, _⟩ := List.lookup_eq_some_iff.mp hs
  exact hreal (p, s) (by rw [hentries]; simp)

namespace Config

open Outcome

/-- Normalizing keeps the beginnings, in lower case. -/
theorem prefixes_of_normalize {site c : Config} (hnormal : site.normalize = .ok c) :
    c.prefixes = site.prefixes.map Text.lowerText := by
  obtain ⟨_, rfl⟩ := normalize_eq_ok.mp hnormal
  rfl

/-- A checked configuration maps nothing to the placeholder, and each of its beginnings has a
subrole. -/
theorem subRoles_of_validate {c : Config} (hvalid : c.validate = .ok ()) :
    (∀ e ∈ c.subRoles.entries, e.2 ≠ placeholder) ∧
      ∀ p ∈ c.prefixes, (c.subRoleForPrefix? p).isSome = true := by
  obtain ⟨_, _, hrest⟩ := bind_eq_ok.mp hvalid
  by_cases hnone : c.placeholders = []
  · simp only [hnone, ne_eq, not_true_eq_false, if_false] at hrest
    refine ⟨fun e he hplaceholder => ?_, fun p hp => ?_⟩
    · have hfound : e.1 ∈ c.placeholders :=
        List.mem_map_of_mem (List.mem_filter.mpr ⟨he, decide_eq_true hplaceholder⟩)
      rw [hnone] at hfound
      cases hfound
    · split at hrest
      · exact absurd hrest throw_ne_ok
      · next hfind =>
        have hsome := List.find?_eq_none.mp hfind p hp
        rwa [Option.isNone_iff_eq_none, ← ne_eq, ← Option.isSome_iff_ne_none] at hsome
  · rw [if_pos hnone] at hrest
    cases hrest

/-- In a checked configuration every beginning that is tried leads to a real subrole. -/
theorem exists_subRole {c : Config} (hvalid : c.validate = .ok ()) {p : String}
    (hp : p ∈ c.allPrefixes) : ∃ s, c.subRoleForPrefix? p = some s ∧ s ≠ placeholder := by
  obtain ⟨hreal, hsome⟩ := subRoles_of_validate hvalid
  -- What the site maps comes first, and what it does not map is built in.
  cases hsite : c.subRoles.get? p with
  | some s =>
    exact ⟨s, by rw [subRoleForPrefix?, hsite, Option.some_or],
      hreal (p, s) (SortedMap.get?_eq_some_iff.mp hsite)⟩
  | none =>
    have hlookup : c.subRoleForPrefix? p = builtInSubRoles.lookup p := by
      rw [subRoleForPrefix?, hsite, Option.none_or]
    have hbuiltIn : (builtInSubRoles.lookup p).isSome = true := by
      rcases List.mem_append.mp hp with hlisted | hbuiltIn
      · exact hlookup ▸ hsome p hlisted
      · exact isSome_builtInSubRole p hbuiltIn
    obtain ⟨s, hs⟩ := Option.isSome_iff_exists.mp hbuiltIn
    exact ⟨s, hlookup.trans hs, builtInSubRole_ne_placeholder hs⟩

/-- The case of a source name does not matter for its beginning. -/
theorem matchPrefix?_lowerText (c : Config) (source : String) :
    c.matchPrefix? (Text.lowerText source) = c.matchPrefix? source := by
  rw [matchPrefix?, matchPrefix?, Text.lowerText, String.toList_ofList, Text.lower_lower]

end Config

/-- The beginning is the first one of the list that the name has. -/
structure FirstBeginning (prefixes : List String) (name p : String) : Prop where
  /-- The name begins with it. -/
  begins : p.toList <+: name.toList
  /-- The name begins with none of those listed before it. -/
  first : ∃ before after, prefixes = before ++ p :: after ∧
    ∀ q ∈ before, ¬q.toList <+: name.toList

/-- Of two lists that are tried one after the other, the second decides only if no entry of the
first one does. -/
theorem FirstBeginning.mem_left {ps qs : List String} {name p q : String}
    (hfirst : FirstBeginning (ps ++ qs) name p) (hq : q ∈ ps)
    (hbegins : q.toList <+: name.toList) : p ∈ ps := by
  obtain ⟨before, after, hlist, hearlier⟩ := hfirst.first
  rcases List.append_eq_append_iff.mp hlist with ⟨more, hbefore, _⟩ | ⟨more, hps, hrest⟩
  · exact absurd hbegins (hearlier q (by rw [hbefore]; exact List.mem_append_left _ hq))
  · cases more with
    | nil =>
      rw [List.append_nil] at hps
      exact absurd hbegins (hearlier q (hps ▸ hq))
    | cons head more =>
      obtain ⟨rfl, _⟩ := List.cons.inj hrest
      rw [hps]
      simp

namespace Config

/-- What matches a source name is the first beginning that it has, in lower case. -/
theorem firstBeginning_of_matchPrefix? {c : Config} {source p : String}
    (hmatch : c.matchPrefix? source = some p) :
    FirstBeginning c.allPrefixes (Text.lowerText source) p := by
  obtain ⟨hbegins, before, after, hlist, hearlier⟩ := List.find?_eq_some_iff_append.mp hmatch
  rw [Text.lowerText]
  refine ⟨?_, before, after, hlist, fun q hq hbegins => ?_⟩
  · rwa [String.toList_ofList, ← List.isPrefixOf_iff_prefix]
  · rw [String.toList_ofList, ← List.isPrefixOf_iff_prefix] at hbegins
    have hnot := hearlier q hq
    simp [hbegins] at hnot

end Config

end ApplicationNode

/-! ### Rows of application nodes -/

namespace Cabling

open Outcome ApplicationNode

/-- A row of an application node has a beginning that decides what the node is for. -/
theorem Row.exists_matchPrefix? {c : Config} {row : Row} {subRole : Option String}
    (hdevice : row.device c = .ok (.node (.application subRole))) :
    ∃ p, c.matchPrefix? row.key = some p ∧ subRole = c.subRoleForPrefix? p := by
  have hnode : row.nodeKind c = .ok (.application subRole) := by
    unfold Row.device at hdevice
    dsimp only at hdevice
    split at hdevice
    · obtain ⟨_, _, hposition⟩ := map_eq_ok.mp hdevice
      cases hposition
    · split at hdevice
      · split at hdevice <;> cases hdevice
      · split at hdevice
        · cases hdevice
        · split at hdevice
          · cases hdevice
          · obtain ⟨kind, hkind, hsame⟩ := map_eq_ok.mp hdevice
            rw [hkind, Device.node.inj hsame]
  unfold Row.nodeKind at hnode
  dsimp only at hnode
  split at hnode
  · split at hnode <;> cases hnode
  · split at hnode
    · split at hnode <;> cases hnode
    · split at hnode
      · next p hmatch => exact ⟨p, hmatch, by cases hnode; rfl⟩
      · split at hnode <;> cases hnode

/-- The subrole is the one of an application node's row, decided by this beginning of its
source name. -/
structure Row.ForSubRole (site c : Config) (row : Row) (p s : String) : Prop where
  /-- The site has filled in the subrole. -/
  real : s ≠ placeholder
  /-- It is what the source name stands for. -/
  resolved : c.resolveSubRole? (Text.trimText row.source) = some s
  /-- It is the subrole of the beginning. -/
  mapped : c.subRoleForPrefix? p = some s
  /-- The beginning is the first one that the source name has, those of the site being tried
  before the built-in ones. -/
  decided : FirstBeginning (site.prefixes.map Text.lowerText ++ builtInPrefixes) row.key p
  /-- If the name has a beginning of the site, then it is one of the site that decides. -/
  siteFirst : ∀ q ∈ site.prefixes, (Text.lowerText q).toList <+: row.key.toList →
    p ∈ site.prefixes.map Text.lowerText

/-- Application nodes have real subroles. If a site's configuration can be normalized and
passes its check, then every row of an application node has a subrole that is no placeholder
and is what its source name stands for, and it is the subrole of the first beginning that this
name has, so that no beginning of the site is passed over for a built-in one. -/
theorem application_subRole_real {site c : Config} (hnormal : site.normalize = .ok c)
    (hvalid : c.validate = .ok ()) {row : Row} {subRole : Option String}
    (hdevice : row.device c = .ok (.node (.application subRole))) :
    ∃ p s, subRole = some s ∧ row.ForSubRole site c p s := by
  obtain ⟨p, hmatch, rfl⟩ := Row.exists_matchPrefix? hdevice
  rw [Row.key, nameKey, Config.matchPrefix?_lowerText] at hmatch
  have hfirst := Config.firstBeginning_of_matchPrefix? hmatch
  have hlisted : p ∈ c.allPrefixes := List.mem_of_find?_eq_some hmatch
  obtain ⟨s, hs, hreal⟩ := Config.exists_subRole hvalid hlisted
  rw [Config.allPrefixes, Config.prefixes_of_normalize hnormal] at hfirst
  refine ⟨p, s, hs, hreal, ?_, hs, hfirst, fun q hq => ?_⟩
  · rw [Config.resolveSubRole?, hmatch, Option.bind_some, hs]
  · exact hfirst.mem_left (List.mem_map_of_mem hq)

/-- A site whose border routers are named like the built-in gateways, but for a hyphen. -/
def borderSite : Config := ⟨["GN-"], .ofList [("Gn-", "Border")], .empty⟩

/-- The site in lower case. -/
def borderConfig : Config := ⟨["gn-"], .ofList [("gn-", "Border")], .empty⟩

/-- A border router is not taken for a gateway. -/
theorem application_subRole_real_borderSite :
    borderSite.normalize = .ok borderConfig ∧ borderConfig.validate = .ok () ∧
      Row.device borderConfig { source := " GN-01" } =
        .ok (.node (.application (some "Border"))) ∧
      ∃ p, Row.ForSubRole borderSite borderConfig { source := " GN-01" } p "Border" := by
  have hnormal : borderSite.normalize = .ok borderConfig := by decide +kernel
  have hvalid : borderConfig.validate = .ok () := by decide +kernel
  have hdevice : Row.device borderConfig { source := " GN-01" } =
      .ok (.node (.application (some "Border"))) := by decide +kernel
  obtain ⟨p, s, hs, hrow⟩ := application_subRole_real hnormal hvalid hdevice
  obtain rfl := Option.some.inj hs
  exact ⟨hnormal, hvalid, hdevice, p, hrow⟩

end Cabling

end SitePlan
