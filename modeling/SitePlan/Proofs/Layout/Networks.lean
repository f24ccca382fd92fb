import SitePlan.Layout.Standard
import SitePlan.Proofs.Layout.Stages
import SitePlan.Proofs.SortedMap

/-!
# The networks of a system

The networks of layouts are filed by name. Every network on file was built by the layout of
its name, and networks whose blocks are apart share no address.
-/

namespace SitePlan.Layout

open Outcome Network

/-- Building a network starts from a template without subnets and pins that fit. -/
structure WellFormed (l : Layout) : Prop where
  /-- Nothing is carved from the template yet. -/
  isEmpty : l.template.subnets = []
  /-- The fixed addresses suit the first subnet. -/
  pinsFit : l.PinsFit

/-- A network is built by carving, and then it may be widened and sealed. -/
theorem build_eq_ok {l : Layout} {inputs : Inputs} {n : Network} :
    l.build inputs = .ok n ↔
      ∃ m, l.carveAll inputs = .ok m ∧ n = if l.supernet then m.applySupernet else m := by
  unfold build
  rw [bind_eq_ok]
  exact exists_congr fun m => and_congr_right fun _ => pure_eq_ok.trans eq_comm

/-- A network that was built has the name of its template. -/
theorem name_build {l : Layout} {inputs : Inputs} {n : Network} (hl : l.WellFormed)
    (hbuild : l.build inputs = .ok n) : n.name = l.template.name := by
  obtain ⟨m, hcarve, rfl⟩ := build_eq_ok.mp hbuild
  obtain ⟨_, hname, _⟩ := wellPlanned_carveAll hl.pinsFit hl.isEmpty hcarve
  split
  · exact hname
  · exact hname

/-- Without the supernet a network that was built is in order and fills the block of its
template. -/
theorem wellPlanned_build {l : Layout} {inputs : Inputs} {n : Network} (hl : l.WellFormed)
    (hplain : l.supernet = false) (hbuild : l.build inputs = .ok n) :
    n.WellPlanned ∧ n.cidr = l.template.cidr := by
  obtain ⟨m, hcarve, rfl⟩ := build_eq_ok.mp hbuild
  obtain ⟨hplanned, _, hcidr⟩ := wellPlanned_carveAll hl.pinsFit hl.isEmpty hcarve
  rw [hplain]
  exact ⟨hplanned, hcidr⟩

/-- Every network on file was there before or was built by a layout of its name. -/
theorem mem_entries_buildInto {inputs : Inputs} {layouts : List Layout}
    {networks built : SortedMap Network} (hl : ∀ l ∈ layouts, l.WellFormed)
    (hbuild : buildInto inputs networks layouts = .ok built) :
    ∀ e ∈ built.entries, e ∈ networks.entries ∨
      ∃ l ∈ layouts, l.template.name = e.1 ∧ l.build inputs = .ok e.2 := by
  induction layouts generalizing networks with
  | nil =>
    cases hbuild
    exact fun e he => .inl he
  | cons l rest ih =>
    unfold buildInto at hbuild
    split at hbuild
    · cases hbuild
    · next n hn =>
      have hname := name_build (hl l List.mem_cons_self) hn
      intro e he
      rcases ih (fun l' hl' => hl l' (List.mem_cons_of_mem _ hl')) hbuild e he with
        hold | ⟨l', hl', hfrom⟩
      · rcases SortedMap.mem_entries_of_insert hold with rfl | hold
        · exact .inr ⟨l, List.mem_cons_self, hname.symm, hn⟩
        · exact .inl hold
      · exact .inr ⟨l', List.mem_cons_of_mem _ hl', hfrom⟩

/-- A network on file stays there as long as no layout of its name follows. -/
theorem get?_buildInto_of_notMem {inputs : Inputs} {layouts : List Layout}
    {networks built : SortedMap Network} {name : String} (hl : ∀ l ∈ layouts, l.WellFormed)
    (hbuild : buildInto inputs networks layouts = .ok built)
    (hother : name ∉ layouts.map (·.template.name)) : built.get? name = networks.get? name := by
  induction layouts generalizing networks with
  | nil =>
    cases hbuild
    rfl
  | cons l rest ih =>
    rw [List.map_cons, List.mem_cons, not_or] at hother
    unfold buildInto at hbuild
    split at hbuild
    · cases hbuild
    · next n hn =>
      have hname := name_build (hl l List.mem_cons_self) hn
      rw [ih (fun l' hl' => hl l' (List.mem_cons_of_mem _ hl')) hbuild hother.2]
      exact SortedMap.get?_insert_of_ne _ _ (hname ▸ hother.1)

/-- Layouts of different names have their networks on file. -/
theorem get?_buildInto {inputs : Inputs} {layouts : List Layout}
    {networks built : SortedMap Network} (hl : ∀ l ∈ layouts, l.WellFormed)
    (hnames : (layouts.map (·.template.name)).Nodup)
    (hbuild : buildInto inputs networks layouts = .ok built) :
    ∀ l ∈ layouts, ∃ n, built.get? l.template.name = some n ∧ l.build inputs = .ok n := by
  induction layouts generalizing networks with
  | nil => simp
  | cons l rest ih =>
    obtain ⟨hfirst, hnames⟩ := List.nodup_cons.mp hnames
    have hrest : ∀ l' ∈ rest, l'.WellFormed := fun l' hl' => hl l' (List.mem_cons_of_mem _ hl')
    unfold buildInto at hbuild
    split at hbuild
    · cases hbuild
    · next n hn =>
      intro l' hl'
      rcases List.mem_cons.mp hl' with rfl | hl'
      · refine ⟨n, ?_, hn⟩
        rw [get?_buildInto_of_notMem hrest hbuild hfirst, name_build (hl l' hl') hn]
        exact SortedMap.get?_insert_self _ _ _
      · exact ih hrest hnames hbuild l' hl'

/-- Every network of a system was built by the layout of its name. -/
theorem mem_entries_buildAll {inputs : Inputs} {layouts : List Layout}
    {networks : SortedMap Network} (hl : ∀ l ∈ layouts, l.WellFormed)
    (hbuild : buildAll layouts inputs = .ok networks) {e : String × Network}
    (he : e ∈ networks.entries) :
    ∃ l ∈ layouts, l.template.name = e.1 ∧ l.build inputs = .ok e.2 := by
  rcases mem_entries_buildInto hl hbuild e he with hold | hfrom
  · cases hold
  · exact hfrom

/-- The templates of layouts are apart when those of different names share no address. -/
def TemplatesApart (layouts : List Layout) : Prop :=
  ∀ a ∈ layouts, ∀ b ∈ layouts, a.template.name ≠ b.template.name →
    a.template.cidr.Disjoint b.template.cidr

/-- Networks that were built from templates apart are apart. -/
theorem pairwise_disjoint_buildAll {inputs : Inputs} {layouts : List Layout}
    {networks : SortedMap Network} (hl : ∀ l ∈ layouts, l.WellFormed)
    (hplain : ∀ l ∈ layouts, l.supernet = false) (hapart : TemplatesApart layouts)
    (hbuild : buildAll layouts inputs = .ok networks) :
    networks.values.Pairwise fun n m => n.cidr.Disjoint m.cidr := by
  refine List.pairwise_map.mpr (networks.sorted.imp_of_mem fun {a b} ha hb hlt => ?_)
  obtain ⟨la, hla, hnamea, hbuilda⟩ := mem_entries_buildAll hl hbuild ha
  obtain ⟨lb, hlb, hnameb, hbuildb⟩ := mem_entries_buildAll hl hbuild hb
  have hcidra := (wellPlanned_build (hl la hla) (hplain la hla) hbuilda).2
  have hcidrb := (wellPlanned_build (hl lb hlb) (hplain lb hlb) hbuildb).2
  rw [hcidra, hcidrb]
  refine hapart la hla lb hlb ?_
  rw [hnamea, hnameb]
  exact String.ne_of_lt hlt

end SitePlan.Layout
