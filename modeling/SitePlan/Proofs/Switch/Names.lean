import Mathlib.Data.List.Perm.Basic
import SitePlan.Proofs.Text.Padding
import SitePlan.Subnet.Groups

/-!
# Names of switches

Switches get their host names while the list is read from front to back, each with its number
among the switches of its role so far. The same names come from taking the switches role by role
and counting in each role, and no two switches share one.
-/

namespace SitePlan.Switch

/-! ### Numbered names -/

/-- A text with a mark is split at the last mark in one way only. -/
theorem append_cons_inj {α : Type} {mark : α} {l l' d d' : List α} (hd : mark ∉ d)
    (hd' : mark ∉ d') : l ++ mark :: d = l' ++ mark :: d' ↔ l = l' ∧ d = d' := by
  refine ⟨fun h => ?_, fun ⟨hl, hrest⟩ => by rw [hl, hrest]⟩
  rcases List.append_eq_append_iff.mp h with ⟨more, rfl, hmore⟩ | ⟨more, rfl, hmore⟩
  · cases more with
    | nil => simpa using hmore
    | cons c more =>
      obtain ⟨_, rfl⟩ := List.cons.inj hmore
      simp at hd
  · cases more with
    | nil => simpa [eq_comm] using hmore
    | cons c more =>
      obtain ⟨_, rfl⟩ := List.cons.inj hmore
      simp at hd'

/-- Padded numbers have nothing but digits. -/
theorem dash_notMem_padNat (width n : Nat) : '-' ∉ Text.padNat width n := by
  intro hmem
  rcases List.mem_append.mp hmem with hzero | hdigit
  · exact absurd (List.eq_of_mem_replicate hzero) (by decide)
  · have hdash := Nat.isDigit_of_mem_toDigits (by decide) (by decide) hdigit
    exact absurd hdash (by decide)

/-- Numbered names tell the stem and the number. -/
theorem numberedName_inj {stem other : String} {m n : Nat} :
    numberedName stem m = numberedName other n ↔ stem = other ∧ m = n := by
  have hlist : ∀ (s : String) (k : Nat),
      (numberedName s k).toList = s.toList ++ '-' :: Text.padNat 3 k := by
    intro s k
    simp [numberedName, Text.padText]
  rw [← String.toList_inj, hlist, hlist,
    append_cons_inj (dash_notMem_padNat 3 m) (dash_notMem_padNat 3 n), String.toList_inj]
  refine and_congr_right fun _ => ?_
  have hpadded : Text.padText 3 m = Text.padText 3 n ↔ m = n := Text.padText_inj
  rw [← hpadded, Text.padText, Text.padText, String.ofList_inj]

/-- The stems of roles are different. -/
theorem Role.nameStem_inj {a b : Role} : a.nameStem = b.nameStem ↔ a = b := by
  cases a <;> cases b <;> decide

/-! ### Names that are given one after another -/

/-- A switch that is named after others has a number above those of its role before it. -/
theorem exists_number_of_mem {seen : List Role} {rest : List Switch} {s : Switch}
    (hs : s ∈ assignNamesAfter seen rest) :
    ∃ number, seen.count s.role < number ∧
      s.hostName = numberedName s.role.nameStem number := by
  induction rest generalizing seen with
  | nil => cases hs
  | cons first rest ih =>
    rcases List.mem_cons.mp hs with rfl | hs
    · exact ⟨_, Nat.lt_succ_self _, rfl⟩
    · obtain ⟨number, hlt, hname⟩ := ih hs
      exact ⟨number, Nat.lt_of_le_of_lt List.count_le_count_cons hlt, hname⟩

/-- The number of a switch counts on from the switches of its role that come before it. -/
theorem hostName_of_assignNamesAfter {seen : List Role} {rest before after : List Switch}
    {s : Switch} (hsplit : assignNamesAfter seen rest = before ++ s :: after) :
    s.hostName = numberedName s.role.nameStem
      (seen.count s.role + before.countP (fun t => t.role = s.role) + 1) := by
  induction before generalizing seen rest with
  | nil =>
    cases rest with
    | nil => cases hsplit
    | cons first rest =>
      obtain ⟨rfl, _⟩ := List.cons.inj hsplit
      rfl
  | cons t before ih =>
    cases rest with
    | nil => cases hsplit
    | cons first rest =>
      obtain ⟨rfl, hrest⟩ := List.cons.inj hsplit
      have hcount : (first.role :: seen).count s.role =
          seen.count s.role + if first.role = s.role then 1 else 0 := by
        rw [List.count_cons]
        simp
      rw [ih hrest, hcount, List.countP_cons]
      congr 1
      simp only [decide_eq_true_eq]
      omega

/-- What corresponds to switches corresponds to them with their names too, if names do not matter
for it. -/
theorem forall₂_assignNamesAfter {α : Type} {R : α → Switch → Prop}
    (hname : ∀ a s name, R a s → R a { s with hostName := name }) {l : List α}
    {switches : List Switch} (hall : List.Forall₂ R l switches) (seen : List Role) :
    List.Forall₂ R l (assignNamesAfter seen switches) := by
  induction hall generalizing seen with
  | nil => exact .nil
  | cons hfirst _ ih => exact .cons (hname _ _ _ hfirst) (ih _)

/-- No two switches get the same name. -/
theorem nodup_hostNames_assignNamesAfter (seen : List Role) (rest : List Switch) :
    ((assignNamesAfter seen rest).map Switch.hostName).Nodup := by
  induction rest generalizing seen with
  | nil => exact List.nodup_nil
  | cons first rest ih =>
    refine List.nodup_cons.mpr ⟨fun hmem => ?_, ih (first.role :: seen)⟩
    obtain ⟨s, hs, hsame⟩ := List.mem_map.mp hmem
    obtain ⟨number, hlt, hname⟩ := exists_number_of_mem hs
    -- a later switch of the same role has counted the first one too
    obtain ⟨hstem, hnumber⟩ := numberedName_inj.mp (hname.symm.trans hsame)
    rw [Role.nameStem_inj.mp hstem, List.count_cons_self] at hlt
    omega

/-! ### Names that are counted in each role -/

/-- The host name of a switch with its location. -/
def label (s : Switch) : String × String := (s.hostName, s.xname)

/-- Naming switches leaves their roles and locations alone. -/
theorem xnamesOfRole_assignNamesAfter (role : Role) (seen : List Role) (rest : List Switch) :
    xnamesOfRole role (assignNamesAfter seen rest) = xnamesOfRole role rest := by
  induction rest generalizing seen with
  | nil => rfl
  | cons first rest ih =>
    have hrest := ih (first.role :: seen)
    unfold xnamesOfRole at hrest ⊢
    rw [assignNamesAfter, List.filter_cons, List.filter_cons]
    split <;> simp [hrest]

/-- The switches of one role are named by counting on in this role. -/
theorem labels_filter_assignNamesAfter (role : Role) (seen : List Role) (rest : List Switch) :
    ((assignNamesAfter seen rest).filter fun s => s.role = role).map label =
      (xnamesOfRole role rest).mapIdx fun i xname =>
        (numberedName role.nameStem (seen.count role + i + 1), xname) := by
  induction rest generalizing seen with
  | nil => rfl
  | cons first rest ih =>
    have hrest := ih (first.role :: seen)
    unfold xnamesOfRole at hrest ⊢
    rw [assignNamesAfter, List.filter_cons, List.filter_cons]
    by_cases hrole : first.role = role
    · subst hrole
      have hlater : ∀ i, seen.count first.role + 1 + i + 1 = seen.count first.role + (i + 1) + 1 :=
        fun i => by omega
      simp only [List.count_cons_self, hlater] at hrest
      simp [label, hrest]
    · rw [List.count_cons_of_ne hrole] at hrest
      simpa [hrole] using hrest

/-! ### Both orders of naming -/

/-- Taking a list apart by keys that cover it changes its order only. -/
theorem perm_flatMap_filter {α κ : Type} [DecidableEq κ] (key : α → κ) {keys : List κ}
    (hnodup : keys.Nodup) {l : List α} (hcover : ∀ a ∈ l, key a ∈ keys) :
    (keys.flatMap fun k => l.filter fun a => key a = k).Perm l := by
  induction keys generalizing l with
  | nil =>
    have hnone : l = [] := List.eq_nil_iff_forall_not_mem.mpr fun a ha => by simpa using hcover a ha
    simp [hnone]
  | cons k keys ih =>
    obtain ⟨hk, hnodup⟩ := List.nodup_cons.mp hnodup
    have hrest : ∀ a ∈ l.filter fun a => !decide (key a = k), key a ∈ keys := by
      intro a ha
      obtain ⟨ha, hother⟩ := List.mem_filter.mp ha
      exact (List.mem_cons.mp (hcover a ha)).resolve_left (by simpa using hother)
    -- what has one of the other keys does not have the first one
    have hsame : (keys.flatMap fun k' => l.filter fun a => key a = k') =
        keys.flatMap fun k' =>
          (l.filter fun a => !decide (key a = k)).filter fun a => key a = k' := by
      refine List.flatMap_congr fun k' hk' => ?_
      rw [List.filter_filter]
      refine List.filter_congr fun a _ => ?_
      by_cases h : key a = k'
      · have hne : k' ≠ k := fun hkeys => hk (hkeys ▸ hk')
        simp [h, hne]
      · simp [h]
    rw [List.flatMap_cons, hsame]
    exact ((ih hnodup hrest).append_left _).trans (List.filter_append_perm _ l)

/-- The roles in the order in which their switches get addresses. -/
def addressedRoles : List Role := [.spine, .leaf, .leafBmc, .aggregation, .cdu]

/-- The names of addresses are made like those of switches. -/
theorem deviceName_eq_numberedName (stem : String) (number : Nat) :
    Subnet.deviceName stem number = numberedName stem number := by
  simp [Subnet.deviceName, numberedName, toString]

/-- The groups of the address plan are those of the roles, with the stems of their names. -/
theorem groups_ofSwitches (switches : List Switch) :
    (Subnet.SwitchXnames.ofSwitches switches).groups =
      addressedRoles.map fun role => (role.nameStem, xnamesOfRole role switches) :=
  rfl

/-- Every switch asks for an address under its name: what is asked for by role and number are the
names that were given one after another. -/
theorem perm_requests_assignNames (switches : List Switch) :
    (Subnet.SwitchXnames.ofSwitches (assignNames switches)).requests.Perm
      ((assignNames switches).map label) := by
  have hnames : ∀ role, Subnet.numberedNames role.nameStem
      (xnamesOfRole role (assignNames switches)) =
        ((assignNames switches).filter fun s => s.role = role).map label := by
    intro role
    rw [assignNames, labels_filter_assignNamesAfter, xnamesOfRole_assignNamesAfter]
    simp [Subnet.numberedNames, deviceName_eq_numberedName]
  have hrequests : (Subnet.SwitchXnames.ofSwitches (assignNames switches)).requests =
      (addressedRoles.flatMap fun role =>
        (assignNames switches).filter fun s => s.role = role).map label := by
    rw [Subnet.SwitchXnames.requests, groups_ofSwitches, List.flatMap_map, List.map_flatMap]
    exact List.flatMap_congr fun role _ => hnames role
  rw [hrequests]
  refine (perm_flatMap_filter Switch.role (by decide) fun s _ => ?_).map label
  cases s.role <;> decide

end SitePlan.Switch
