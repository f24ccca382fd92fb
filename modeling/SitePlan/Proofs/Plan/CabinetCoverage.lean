import SitePlan.Proofs.Layout.CabinetSubnets
import SitePlan.Proofs.Plan.ManagementNodes

/-!
# Networks of cabinets

Two networks give cabinets of a class their subnets, and the record of a cabinet lists both
subnets. The networks choose their cabinets by filters and the record by the class of the
group, so a plan covers a cabinet exactly if the filters accept it.
-/

namespace SitePlan.Plan

open Hardware Layout Network Outcome Synthesis

/-- The hardware management network of the cabinets of a class. -/
def hmnName : Hardware.Class → String
  | .river => "HMN_RVR"
  | .hill | .mountain => "HMN_MTN"

/-- The node management network of the cabinets of a class. -/
def nmnName : Hardware.Class → String
  | .river => "NMN_RVR"
  | .hill | .mountain => "NMN_MTN"

/-- The cabinets among which the networks of a class are divided. -/
def cabinetsOf : Hardware.Class → Cabinet.Filter
  | .river => riverCabinets
  | .hill | .mountain => liquidCooledCabinets

/-- The network of a family in which the cabinets of a class are recorded. -/
def homeNetwork : Overrides → Hardware.Class → Network
  | .nmn, .river => nmnRiver
  | .nmn, .hill | .nmn, .mountain => nmnMountain
  | .hmn, .river => hmnRiver
  | .hmn, .hill | .hmn, .mountain => hmnMountain

/-- The subnet is the one of the cabinet in a network of the plan. -/
def IsCabinetSubnet (plan : Plan) (network : String) (d : Cabinet.Detail) (s : Subnet) : Prop :=
  ∃ n, plan.networks.get? network = some n ∧ n.lookup (cabinetSubnetName d) = .ok s

/-- The cabinet has a subnet in both networks of its class, and its record lists these two,
with block, gateway and VLAN, and no other. -/
def CoversCabinet (plan : Plan) (c : Hardware.Class) (d : Cabinet.Detail) : Prop :=
  ∃ hmn nmn r p listed,
    plan.IsCabinetSubnet (hmnName c) d hmn ∧ plan.IsCabinetSubnet (nmnName c) d nmn ∧
    plan.hardware.get? d.xname = some r ∧ r.properties = some (.cabinet p) ∧
    p.networks.get? "cn" = some listed ∧
    listed.entries = [("HMN", ⟨hmn.cidr.render, hmn.gateway.render, hmn.vlan⟩),
      ("NMN", ⟨nmn.cidr.render, nmn.gateway.render, nmn.vlan⟩)]

/-- A cabinet's subnet is found where the plan has it. -/
theorem cabinetSubnet?_eq_some {plan : Plan} {network : String} {d : Cabinet.Detail}
    {s : Subnet} (hs : plan.IsCabinetSubnet network d s) :
    cabinetSubnet? plan.networks d network = some s := by
  obtain ⟨n, hn, hlookup⟩ := hs
  simp [cabinetSubnet?, hn, hlookup, Except.toOption]

/-- The record of a cabinet that has a subnet in both networks of its class lists the two. -/
theorem exists_listed {plan : Plan} {c : Hardware.Class} {d : Cabinet.Detail}
    {hmn nmn : Subnet} (hhmn : plan.IsCabinetSubnet (hmnName c) d hmn)
    (hnmn : plan.IsCabinetSubnet (nmnName c) d nmn) :
    ∃ listed, (cabinetProperties plan.networks c d).networks.get? "cn" = some listed ∧
      listed.entries =
        [("HMN", cabinetNetwork hmn), ("NMN", cabinetNetwork nmn)] := by
  have hsubnets : cabinetSubnets plan.networks c d =
      .ofList [("HMN", cabinetNetwork hmn), ("NMN", cabinetNetwork nmn)] := by
    have hhmn := cabinetSubnet?_eq_some hhmn
    have hnmn := cabinetSubnet?_eq_some hnmn
    cases c <;> simp only [hmnName, nmnName] at hhmn hnmn <;>
      simp [cabinetSubnets, cabinetNetworkNames, hhmn, hnmn]
  have hentries : (SortedMap.ofList
      [("HMN", cabinetNetwork hmn), ("NMN", cabinetNetwork nmn)]).entries =
        [("HMN", cabinetNetwork hmn), ("NMN", cabinetNetwork nmn)] := by
    have horder : ¬("NMN" : String) < "HMN" := by decide
    simp [SortedMap.ofList, SortedMap.insert, SortedMap.insertEntry, SortedMap.empty, horder]
  refine ⟨_, ?_, hentries⟩
  simp only [cabinetProperties, hsubnets, hentries]
  exact SortedMap.get?_insert_self _ _ _

/-- A cabinet of a known class has a record among those of cabinets. -/
theorem exists_mem_cabinetHardware {cabinets : List Cabinet.Group}
    {networks : SortedMap Network} {records : List Record}
    (hok : cabinetHardware cabinets networks = .ok records) {g : Cabinet.Group}
    (hg : g ∈ cabinets) {d : Cabinet.Detail} (hd : d ∈ g.details) {c : Hardware.Class}
    (hclass : g.hardwareClass? = some c) :
    ∃ r ∈ records, cabinetRecord networks c d = .ok r := by
  refine exists_of_forall₂ (b := (c, d)) (mapM_eq_ok.mp hok).flip
    (List.mem_flatMap.mpr ⟨g, hg, ?_⟩)
  rw [hclass]
  exact List.mem_map_of_mem hd

/-- The home networks are divided among the cabinets of their class. -/
theorem perCabinet_mem_standard (overrides : Overrides) (c : Hardware.Class)
    (options : Layout.Options) :
    perCabinet (homeNetwork overrides c) (cabinetsOf c) overrides options ∈ standard options := by
  cases overrides <;> cases c <;> simp [standard, homeNetwork, cabinetsOf]

/-- The networks of a class are divided among its cabinets. -/
theorem exists_perCabinet (c : Hardware.Class) (options : Layout.Options) :
    (∃ template, template.name = hmnName c ∧ template.subnets = [] ∧
      perCabinet template (cabinetsOf c) .hmn options ∈ standard options) ∧
    ∃ template, template.name = nmnName c ∧ template.subnets = [] ∧
      perCabinet template (cabinetsOf c) .nmn options ∈ standard options := by
  have hhmn := perCabinet_mem_standard .hmn c options
  have hnmn := perCabinet_mem_standard .nmn c options
  exact ⟨⟨_, by cases c <;> rfl, (wellFormed_standard hhmn).isEmpty, hhmn⟩,
    ⟨_, by cases c <;> rfl, (wellFormed_standard hnmn).isEmpty, hnmn⟩⟩

section

variable {site : Site} {options : Options} {plan : Plan}

/-- A cabinet of valid groups has a subnet in a network that is divided among cabinets
exactly if it is one of these. -/
theorem exists_isCabinetSubnet_iff (hvalid : Cabinet.validate site.cabinets = .ok ())
    (hok : generate site options = .ok plan) {template : Network} {accepts : Cabinet.Filter}
    {overrides : Overrides} (hempty : template.subnets = [])
    (hl : perCabinet template accepts overrides options.layout ∈ standard options.layout)
    {g : Cabinet.Group} (hg : g ∈ site.cabinets) {d : Cabinet.Detail} (hd : d ∈ g.details) :
    (∃ s, plan.IsCabinetSubnet template.name d s) ↔ accepts g d = true := by
  obtain ⟨hardware, _, _, hnetworks, _⟩ := generate_spec hok
  obtain ⟨n, hget, hbuild⟩ := get?_buildInto (fun _ => wellFormed_standard)
    (nodup_names_standard options.layout) hnetworks _ hl
  have hname : cabinetSubnetName d ∈ n.subnetNames ↔ accepts g d = true := by
    rw [mem_subnetNames_build_perCabinet hempty hbuild, List.mem_map,
      ← Cabinet.exists_mem_select_iff hvalid hg hd]
    simp only [cabinetSubnetName_inj]
  rw [← hname, ← exists_lookup_iff]
  constructor
  · rintro ⟨s, m, hm, hs⟩
    rw [show template.name = (perCabinet template accepts overrides options.layout).template.name
      from rfl, hget, Option.some.injEq] at hm
    exact ⟨s, hm ▸ hs⟩
  · rintro ⟨s, hs⟩
    exact ⟨s, n, hget, hs⟩

/-- Every cabinet has the record that is made of cabinets of its class. -/
theorem exists_cabinetRecord (hok : generate site options = .ok plan) {g : Cabinet.Group}
    (hg : g ∈ site.cabinets) {d : Cabinet.Detail} (hd : d ∈ g.details) {c : Hardware.Class}
    (hclass : g.hardwareClass? = some c) :
    ∃ r, plan.hardware.get? d.xname = some r ∧ cabinetRecord plan.networks c d = .ok r := by
  obtain ⟨hardware, cabinets, hhardware, _, hcabinets, hadd⟩ := generate_spec hok
  obtain ⟨hfiled, _⟩ := inventory_spec hhardware
  obtain ⟨hfiled, hperm⟩ := Inventory.addAll_spec hfiled hadd
  obtain ⟨r, hr, hrecord⟩ := exists_mem_cabinetHardware hcabinets hg hd hclass
  refine ⟨r, ?_, hrecord⟩
  rw [Cabinet.Detail.xname, ← (record_spec hrecord).1]
  exact hfiled.get?_xname (hperm.mem_iff.mpr (List.mem_append_right _ hr))

/-- A plan covers a cabinet of valid groups exactly if the networks of its class are divided
among it and others. -/
theorem coversCabinet_iff_accepts (hvalid : Cabinet.validate site.cabinets = .ok ())
    (hok : generate site options = .ok plan) {g : Cabinet.Group} (hg : g ∈ site.cabinets)
    {d : Cabinet.Detail} (hd : d ∈ g.details) {c : Hardware.Class}
    (hclass : g.hardwareClass? = some c) :
    plan.CoversCabinet c d ↔ cabinetsOf c g d = true := by
  obtain ⟨⟨hmnTemplate, hhmnName, hhmnEmpty, hhmn⟩, nmnTemplate, hnmnName, hnmnEmpty, hnmn⟩ :=
    exists_perCabinet c options.layout
  have hhmn := exists_isCabinetSubnet_iff hvalid hok hhmnEmpty hhmn hg hd
  have hnmn := exists_isCabinetSubnet_iff hvalid hok hnmnEmpty hnmn hg hd
  rw [hhmnName] at hhmn
  rw [hnmnName] at hnmn
  constructor
  · rintro ⟨s, _, _, _, _, hs, _⟩
    exact hhmn.mp ⟨s, hs⟩
  · intro haccepts
    obtain ⟨hmn, hhmn⟩ := hhmn.mpr haccepts
    obtain ⟨nmn, hnmn⟩ := hnmn.mpr haccepts
    obtain ⟨listed, hlisted, hentries⟩ := exists_listed hhmn hnmn
    obtain ⟨r, hr, hrecord⟩ := exists_cabinetRecord hok hg hd hclass
    exact ⟨hmn, nmn, r, _, listed, hhmn, hnmn, hr, (record_spec hrecord).2.2, hlisted, hentries⟩

/-- Cabinet network coverage: each cabinet has a known class, and the plan covers it exactly
if, for a cabinet of racks, its group is declared as `river` in small letters or it is an
EX2500 with air cooling. Cabinets of the other classes are always covered. -/
theorem coversCabinet_iff (hvalid : Cabinet.validate site.cabinets = .ok ())
    (hok : generate site options = .ok plan) {g : Cabinet.Group} (hg : g ∈ site.cabinets)
    {d : Cabinet.Detail} (hd : d ∈ g.details) :
    ∃ c, g.hardwareClass? = some c ∧
      (plan.CoversCabinet c d ↔ (c = .river →
        g.kind = "river" ∨ d.model = some "EX2500" ∧ 0 < d.airCooledChassis)) := by
  obtain ⟨c, hclass⟩ := Option.isSome_iff_exists.mp
    ((Cabinet.validate_eq_ok.mp hvalid).1 g hg)
  refine ⟨c, hclass, ?_⟩
  rw [coversCabinet_iff_accepts hvalid hok hg hd hclass]
  cases c <;> simp [cabinetsOf, riverCabinets, liquidCooledCabinets, Cabinet.Filter.or,
    Cabinet.Filter.ofKind, Cabinet.Filter.ofClass, Cabinet.Filter.ex2500AirCooled, hclass]

end

/-- A cabinet of this kind, and one for liquid cooling without chassis. -/
def cabinetSite (kind : String) : Site where
  cabinets := [{ kind := kind, total := 1, startingId := 3000 },
    { kind := "hill", details := [{ id := 9000, chassisCount := some ⟨0, 1⟩ }] }].map
      Cabinet.Group.populate

/-- With racks that are declared in small letters every cabinet is covered. -/
theorem coversCabinet_cabinetSite :
    Cabinet.validate (cabinetSite "river").cabinets = .ok () ∧
      ∃ plan, generate (cabinetSite "river") {} = .ok plan ∧
        ∀ g ∈ (cabinetSite "river").cabinets, ∀ d ∈ g.details,
          ∃ c, g.hardwareClass? = some c ∧ plan.CoversCabinet c d := by
  have hvalid : Cabinet.validate (cabinetSite "river").cabinets = .ok () := by decide +kernel
  obtain ⟨plan, hok⟩ : ∃ plan, generate (cabinetSite "river") {} = .ok plan :=
    exists_of_isOk (by decide +kernel)
  have hkinds : ∀ g ∈ (cabinetSite "river").cabinets,
      g.hardwareClass? = some .river → g.kind = "river" := by decide +kernel
  refine ⟨hvalid, plan, hok, fun g hg d hd => ?_⟩
  obtain ⟨c, hclass, hcovers⟩ := coversCabinet_iff hvalid hok hg hd
  exact ⟨c, hclass, hcovers.mpr fun hriver => .inl (hkinds g hg (hriver ▸ hclass))⟩

/-- A cabinet of racks that is declared with a capital letter is of the same class, but has
no subnet. -/
theorem not_forall_coversCabinet :
    ¬∀ (site : Site) (options : Options) (plan : Plan),
      Cabinet.validate site.cabinets = .ok () → generate site options = .ok plan →
      ∀ g ∈ site.cabinets, ∀ d ∈ g.details, ∀ c, g.hardwareClass? = some c →
        plan.CoversCabinet c d := by
  intro hall
  have hvalid : Cabinet.validate (cabinetSite "River").cabinets = .ok () := by decide +kernel
  obtain ⟨plan, hok⟩ : ∃ plan, generate (cabinetSite "River") {} = .ok plan :=
    exists_of_isOk (by decide +kernel)
  obtain ⟨g, hg, hd, hriver, hrefused⟩ : ∃ g ∈ (cabinetSite "River").cabinets,
      Cabinet.Detail.ofId 3000 ∈ g.details ∧ g.hardwareClass? = some .river ∧
        riverCabinets g (.ofId 3000) = false := by decide +kernel
  have hcovers := hall _ _ plan hvalid hok g hg _ hd _ hriver
  rw [coversCabinet_iff_accepts hvalid hok hg hd hriver] at hcovers
  exact absurd hcovers (by simp [cabinetsOf, hrefused])

end SitePlan.Plan
