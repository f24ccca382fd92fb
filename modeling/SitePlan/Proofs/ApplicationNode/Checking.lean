import SitePlan.Proofs.ApplicationNode
import SitePlan.Proofs.Cabling.SubRoles

/-!
# What the check of a configuration finds

A configuration passes its check exactly if only nodes have host names, no two locations share
one, and each beginning has a subrole that is no placeholder. The check reports the first fault
that it comes to, and the configuration really has it. So what has no fault passes.
-/

namespace SitePlan.ApplicationNode.Config

open Outcome

/-- Host names belong to nodes and are not shared, and every beginning has a subrole that the
site has filled in. -/
structure Sound (c : Config) : Prop where
  /-- Only nodes have host names. -/
  nodes : ∀ xname ∈ c.aliases.keys, Xname.kind? xname = some .node
  /-- No host name is given to two locations. -/
  apart : ∀ first second name, name ∈ c.aliasesFor first → name ∈ c.aliasesFor second →
    first = second
  /-- Nothing is left for the site to fill in. -/
  filledIn : ∀ e ∈ c.subRoles.entries, e.2 ≠ placeholder
  /-- Each of the site's beginnings has a subrole, its own or a built-in one. -/
  known : ∀ p ∈ c.prefixes, p ∈ c.subRoles.keys ∨ p ∈ builtInSubRoles.map Prod.fst

/-- The configuration has the fault: what is said to be amiss is in the configuration, and it is
amiss. The check finds no beginnings or keys that become the same, since it changes none. -/
def HasFault (c : Config) : Error → Prop
  | .invalidAliasXname xname => xname ∈ c.aliases.keys ∧ Xname.kind? xname = none
  | .aliasXnameNotNode xname actual =>
    xname ∈ c.aliases.keys ∧ Xname.kind? xname = some actual ∧ actual ≠ .node
  | .duplicateAlias name first second =>
    first ≠ second ∧ name ∈ c.aliasesFor first ∧ name ∈ c.aliasesFor second
  | .placeholderSubRole ps =>
    ps ≠ [] ∧ ps.Pairwise (· < ·) ∧ ∀ p, p ∈ ps ↔ c.subRoles.get? p = some placeholder
  | .missingSubRole p =>
    p ∈ c.prefixes ∧ p ∉ c.subRoles.keys ∧ p ∉ builtInSubRoles.map Prod.fst
  | .duplicatePrefix _ | .collision _ _ => False

/-- What is sound has no fault. -/
theorem Sound.not_hasFault {c : Config} (hsound : c.Sound) (fault : Error) :
    ¬c.HasFault fault := by
  intro hfault
  cases fault with
  | duplicatePrefix written => exact hfault
  | collision field key => exact hfault
  | invalidAliasXname xname =>
    have hnode := hsound.nodes xname hfault.1
    rw [hfault.2] at hnode
    cases hnode
  | aliasXnameNotNode xname actual =>
    obtain ⟨hkey, hkind, hother⟩ := hfault
    have hnode := hsound.nodes xname hkey
    rw [hkind] at hnode
    exact hother (Option.some.inj hnode)
  | duplicateAlias name first second =>
    exact hfault.1 (hsound.apart first second name hfault.2.1 hfault.2.2)
  | placeholderSubRole ps =>
    obtain ⟨hsome, _, hmem⟩ := hfault
    obtain ⟨p, rest, rfl⟩ := List.exists_cons_of_ne_nil hsome
    have hentry := SortedMap.get?_eq_some_iff.mp ((hmem p).mp List.mem_cons_self)
    exact hsound.filledIn _ hentry rfl
  | missingSubRole p =>
    obtain ⟨hlisted, hsite, hbuiltIn⟩ := hfault
    exact (hsound.known p hlisted).elim hsite hbuiltIn

/-! ### Host names -/

/-- A location whose host names cannot be noted shares one with another owner. -/
theorem exists_of_addOwners_eq_error {node : String} {owners : SortedMap String}
    {names : List String} {fault : Error} (herror : addOwners node owners names = .error fault) :
    ∃ name ∈ names, ∃ first, owners.get? name = some first ∧ first ≠ node ∧
      fault = .duplicateAlias name first node := by
  induction names generalizing owners with
  | nil => cases herror
  | cons name rest ih =>
    unfold addOwners at herror
    split at herror
    · next owner howner =>
      split at herror
      · obtain ⟨later, hlater, hfault⟩ := ih herror
        exact ⟨later, List.mem_cons_of_mem _ hlater, hfault⟩
      · next hother =>
        exact ⟨name, List.mem_cons_self, owner, howner, hother, (Except.error.inj herror).symm⟩
    · obtain ⟨later, hlater, first, hfirst, hother, hfault⟩ := ih herror
      refine ⟨later, List.mem_cons_of_mem _ hlater, first, ?_, hother, hfault⟩
      -- The owner found is another one, so it was not noted just now.
      have hne : later ≠ name := by
        rintro rfl
        rw [SortedMap.get?_insert_self] at hfirst
        exact hother (Option.some.inj hfirst).symm
      rwa [SortedMap.get?_insert_of_ne _ _ hne] at hfirst

/-- Locations that pass the check are nodes. -/
theorem kind?_of_checkAliases {owners : SortedMap String}
    {entries : List (String × List String)} (hok : checkAliases owners entries = .ok ()) :
    ∀ e ∈ entries, Xname.kind? e.1 = some .node := by
  induction entries generalizing owners with
  | nil => simp
  | cons head rest ih =>
    unfold checkAliases at hok
    split at hok
    · cases hok
    · next hnode =>
      split at hok
      · cases hok
      · exact List.forall_mem_cons.mpr ⟨hnode, ih hok⟩
    · cases hok

/-- The owners noted so far have their host names in the configuration. -/
def Notes (c : Config) (owners : SortedMap String) : Prop :=
  ∀ name owner, owners.get? name = some owner → name ∈ c.aliasesFor owner

/-- Noting the host names of a location of the configuration notes nothing else. -/
theorem Notes.addOwners {c : Config} {owners later : SortedMap String} {node : String}
    {names : List String} (hnotes : c.Notes owners) (hentry : (node, names) ∈ c.aliases.entries)
    (hok : Config.addOwners node owners names = .ok later) : c.Notes later := by
  intro name owner howner
  rw [(addOwners_spec hok).1 name] at howner
  split at howner
  · next hname =>
    obtain rfl := Option.some.inj howner
    exact mem_aliasesFor.mpr ⟨names, hentry, hname⟩
  · exact hnotes name owner howner

/-- A fault of the walk over locations of the configuration is a fault of the configuration. -/
theorem hasFault_of_checkAliases {c : Config} {owners : SortedMap String}
    {entries : List (String × List String)} {fault : Error} (hnotes : c.Notes owners)
    (hentries : ∀ e ∈ entries, e ∈ c.aliases.entries)
    (herror : checkAliases owners entries = .error fault) : c.HasFault fault := by
  induction entries generalizing owners with
  | nil => cases herror
  | cons head rest ih =>
    obtain ⟨node, names⟩ := head
    obtain ⟨hentry, hrest⟩ := List.forall_mem_cons.mp hentries
    have hkey : node ∈ c.aliases.keys := List.mem_map_of_mem (f := Prod.fst) hentry
    unfold checkAliases at herror
    split at herror
    · next hnone =>
      obtain rfl := Except.error.inj herror
      exact ⟨hkey, hnone⟩
    · split at herror
      · next hfault =>
        obtain rfl := Except.error.inj herror
        obtain ⟨name, hname, first, hfirst, hother, rfl⟩ := exists_of_addOwners_eq_error hfault
        exact ⟨hother, hnotes name first hfirst, mem_aliasesFor.mpr ⟨names, hentry, hname⟩⟩
      · next hlater => exact ih (hnotes.addOwners hentry hlater) hrest herror
    · next actual hother hkind =>
      obtain rfl := Except.error.inj herror
      exact ⟨hkey, hkind, hother⟩

/-! ### Subroles -/

/-- A beginning has a subrole if the site has one for it or it is built in. -/
theorem isSome_subRoleForPrefix?_iff {c : Config} {p : String} :
    (c.subRoleForPrefix? p).isSome = true ↔
      p ∈ c.subRoles.keys ∨ p ∈ builtInSubRoles.map Prod.fst := by
  have hbuiltIn : (builtInSubRoles.lookup p).isSome = true ↔ p ∈ builtInSubRoles.map Prod.fst := by
    simp [Option.isSome_iff_ne_none, List.lookup_eq_none_iff]
  rw [subRoleForPrefix?, Option.isSome_or, Bool.or_eq_true, hbuiltIn, ← SortedMap.contains_iff,
    SortedMap.contains]

/-- The beginnings with the placeholder are those that the site maps to it, in order. -/
theorem placeholders_spec (c : Config) : c.placeholders.Pairwise (· < ·) ∧
    ∀ p, p ∈ c.placeholders ↔ c.subRoles.get? p = some placeholder := by
  refine ⟨List.pairwise_map.mpr (c.subRoles.sorted.filter _), fun p => ?_⟩
  simp [placeholders, SortedMap.get?_eq_some_iff]

/-! ### The whole check -/

/-- A fault that the check reports is one that the configuration has. -/
theorem failsOnly_validate (c : Config) : FailsOnly c.HasFault c.validate := by
  have hnone : c.Notes .empty := fun _ _ howner => by cases howner
  refine FailsOnly.bind (fun _ => hasFault_of_checkAliases hnone fun _ => id) fun _ _ => ?_
  obtain ⟨hsorted, hmem⟩ := c.placeholders_spec
  by_cases hsome : c.placeholders = []
  · simp only [hsome, ne_eq, not_true_eq_false, if_false]
    split
    · next p hfind =>
      have hmissing := List.find?_some hfind
      rw [Option.isNone_iff_eq_none, ← Option.not_isSome_iff_eq_none,
        isSome_subRoleForPrefix?_iff, not_or] at hmissing
      exact failsOnly_error ⟨List.mem_of_find?_eq_some hfind, hmissing⟩
    · exact failsOnly_ok ()
  · rw [if_pos hsome]
    exact failsOnly_error ⟨hsome, hsorted, hmem⟩

/-- What passes the check is sound. -/
theorem sound_of_validate {c : Config} (hvalid : c.validate = .ok ()) : c.Sound where
  nodes := by
    obtain ⟨_, hcheck, _⟩ := bind_eq_ok.mp hvalid
    exact List.forall_mem_map.mpr (kind?_of_checkAliases hcheck)
  apart := fun _ _ _ hfirst hsecond => by
    by_contra hother
    exact aliasesFor_disjoint hvalid hother hfirst hsecond
  filledIn := (subRoles_of_validate hvalid).1
  known := fun p hp => isSome_subRoleForPrefix?_iff.mp ((subRoles_of_validate hvalid).2 p hp)

/-- The check is exact. A configuration passes it exactly if it is sound, and any fault that the
check reports is one that the configuration has. -/
theorem validate_exact (c : Config) :
    (c.validate = .ok () ↔ c.Sound) ∧ ∀ fault, c.validate = .error fault → c.HasFault fault := by
  have hfaults := failsOnly_validate c
  refine ⟨⟨sound_of_validate, fun hsound => ?_⟩, hfaults⟩
  cases hresult : c.validate with
  | error fault => exact absurd (hfaults fault hresult) (hsound.not_hasFault fault)
  | ok => rfl

/-- One location repeats a host name, which is no fault, and another one borrows it. -/
def borrowedAlias : Config where
  aliases := .ofList
    [("x3000c0s1b0n0", ["uan01", "uan01"]), ("x3000c0s2b0n0", ["login01", "uan01"])]

/-- Two subroles are left to be filled in. -/
def unfilledSubRoles : Config where
  prefixes := ["special"]
  subRoles := .ofList [("zz", placeholder), ("gateway", "Gateway"), ("aa", placeholder)]

/-- The borrowed host name is reported with both locations that have it, and the subroles to be
filled in before the beginning that has none. -/
theorem validate_exact_borrowedAlias :
    (borrowedAlias.validate = .error (.duplicateAlias "uan01" "x3000c0s1b0n0" "x3000c0s2b0n0") ∧
      "uan01" ∈ borrowedAlias.aliasesFor "x3000c0s1b0n0" ∧
      "uan01" ∈ borrowedAlias.aliasesFor "x3000c0s2b0n0") ∧
    unfilledSubRoles.validate = .error (.placeholderSubRole ["aa", "zz"]) ∧
      ∀ p, p ∈ ["aa", "zz"] ↔ unfilledSubRoles.subRoles.get? p = some placeholder := by
  have hborrowed : borrowedAlias.validate =
      .error (.duplicateAlias "uan01" "x3000c0s1b0n0" "x3000c0s2b0n0") := by decide +kernel
  have hunfilled : unfilledSubRoles.validate = .error (.placeholderSubRole ["aa", "zz"]) := by
    decide +kernel
  obtain ⟨_, hfirst, hsecond⟩ := (validate_exact borrowedAlias).2 _ hborrowed
  obtain ⟨_, _, hmem⟩ := (validate_exact unfilledSubRoles).2 _ hunfilled
  exact ⟨⟨hborrowed, hfirst, hsecond⟩, hunfilled, hmem⟩

end SitePlan.ApplicationNode.Config
