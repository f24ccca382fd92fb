import SitePlan.Proofs.Layout.RangeFaults
import SitePlan.Proofs.Layout.Soundness
import SitePlan.Proofs.Plan.CabinetCoverage

/-!
# Blocks that cabinets must get

A cabinet has one block that it must get for each family of networks, and the block is meant for
the network in which the record of the cabinet looks. Where all blocks lie in these networks, only
the cabinets that get subnets in the networks of racks as well as in those of liquid-cooled
cabinets stand in the way: the one block cannot lie in both.
-/

namespace SitePlan.Plan

open Hardware Layout Network Outcome Synthesis

/-- The records of cabinets look into the home networks of their class. -/
theorem cabinetNetworkNames_eq (c : Hardware.Class) :
    cabinetNetworkNames c =
      [("HMN", (homeNetwork .hmn c).name), ("NMN", (homeNetwork .nmn c).name)] := by
  cases c <;> rfl

/-- Every block that a cabinet must get lies in its home network. -/
def PinnedAtHome (cabinets : List Cabinet.Group) : Prop :=
  ∀ g ∈ cabinets, ∀ d ∈ g.details, ∀ c, g.hardwareClass? = some c →
    ∀ overrides pin, Overrides.subnet? overrides d = some pin →
      pin.Within (homeNetwork overrides c).cidr

/-- The cabinets with liquid cooling that get subnets in the networks of racks too. -/
def twoHomedCabinets : Cabinet.Filter := .and liquidCooledCabinets .ex2500AirCooled

/-- No networks but the home networks are divided among cabinets. -/
theorem eq_perCabinet_of_mem_standard {options : Layout.Options} {l : Layout}
    (hl : l ∈ standard options) :
    l.cabinetSubdivision = none ∨
      ∃ overrides c, l = perCabinet (homeNetwork overrides c) (cabinetsOf c) overrides options := by
  simp only [standard, List.mem_cons, List.not_mem_nil, or_false] at hl
  rcases hl with rfl | rfl | rfl | rfl | rfl | rfl | hrest
  · exact .inl rfl
  · exact .inl rfl
  · exact .inr ⟨.nmn, .river, rfl⟩
  · exact .inr ⟨.hmn, .river, rfl⟩
  · exact .inr ⟨.nmn, .hill, rfl⟩
  · exact .inr ⟨.hmn, .hill, rfl⟩
  · rcases hrest with rfl | rfl | rfl | rfl | rfl <;> exact .inl rfl

/-- All classes with liquid cooling have the same home networks. -/
theorem homeNetwork_congr {c own : Hardware.Class} (hsame : c = .river ↔ own = .river)
    (overrides : Overrides) : homeNetwork overrides c = homeNetwork overrides own := by
  cases c <;> cases own <;> simp_all <;> cases overrides <;> rfl

/-- The home networks of racks and of liquid-cooled cabinets lie apart. -/
theorem disjoint_homeNetwork {own : Hardware.Class} (hown : own ≠ .river)
    (overrides : Overrides) :
    (homeNetwork overrides .river).cidr.Disjoint (homeNetwork overrides own).cidr := by
  rw [← Cidr.overlaps_eq_false_iff]
  revert hown
  cases overrides <;> cases own <;> decide

section

variable {g : Cabinet.Group} {d : Cabinet.Detail} {own : Hardware.Class}

/-- The liquid-cooled cabinets are those of the classes other than that of racks. -/
theorem liquidCooledCabinets_iff (hclass : g.hardwareClass? = some own) :
    liquidCooledCabinets g d = true ↔ own ≠ .river := by
  cases own <;> simp [liquidCooledCabinets, Cabinet.Filter.or, Cabinet.Filter.ofClass, hclass]

/-- A cabinet gets its subnets in its home networks, unless it is one of two homes and gets them
in the networks of racks. -/
theorem homeNetwork_of_accepts (hclass : g.hardwareClass? = some own) {c : Hardware.Class}
    (haccepts : cabinetsOf c g d = true) (overrides : Overrides) :
    homeNetwork overrides c = homeNetwork overrides own ∨
      (c = .river ∧ twoHomedCabinets g d = true) := by
  by_cases hc : c = .river
  · subst hc
    by_cases hown : own = .river
    · exact .inl (by rw [hown])
    -- the kind of racks would make it their class, so air cooling is what lets the cabinet in
    rcases Bool.or_eq_true_iff.mp haccepts with hkind | hcooled
    · have hriver : g.hardwareClass? = some .river := by
        rw [Cabinet.Group.hardwareClass?, show g.kind = "river" from of_decide_eq_true hkind]
        decide +kernel
      exact absurd (Option.some.inj (hclass.symm.trans hriver)) hown
    · exact .inr ⟨rfl, Bool.and_eq_true_iff.mpr
        ⟨(liquidCooledCabinets_iff hclass).mpr hown, hcooled⟩⟩
  · have hliquid : liquidCooledCabinets g d = true := by
      cases c with
      | river => exact absurd rfl hc
      | hill | mountain => exact haccepts
    have hown := (liquidCooledCabinets_iff hclass).mp hliquid
    exact .inl (homeNetwork_congr (by simp [hc, hown]) overrides)

end

section

variable {options : Layout.Options} {inputs : Layout.Inputs}

/-- A cabinet with two homes must get the block, and this is its network of racks. -/
def TwoHomedPin (cabinets : List Cabinet.Group) (block : Cidr) (name : String) (cidr : Cidr) :
    Prop :=
  ∃ g ∈ cabinets, ∃ d ∈ g.details, ∃ overrides pin, twoHomedCabinets g d = true ∧
    Overrides.subnet? overrides d = some pin ∧ block = pin.dropHost ∧
    name = (homeNetwork overrides .river).name ∧ cidr = (homeNetwork overrides .river).cidr

/-- A fault about a block outside its network is about a cabinet with two homes. -/
def BlamesTwoHomed (cabinets : List Cabinet.Group) : AddressError → Prop
  | .outOfRange block name cidr => TwoHomedPin cabinets block name cidr
  | _ => True

/-- Other faults blame no cabinet. -/
theorem blamesTwoHomed_of_isInRange {cabinets : List Cabinet.Group} {fault : AddressError}
    (hfault : fault.IsInRange) : BlamesTwoHomed cabinets fault := by
  cases fault
  case outOfRange => exact hfault.elim
  all_goals trivial

/-- The networks of cabinets cannot be built for a block outside them only if a cabinet with two
homes must get it. -/
theorem failsOnly_build_homeNetwork (hvalid : Cabinet.validate inputs.cabinets = .ok ())
    (hhome : PinnedAtHome inputs.cabinets) (overrides : Overrides) (c : Hardware.Class) :
    FailsOnly (BlamesTwoHomed inputs.cabinets)
      ((perCabinet (homeNetwork overrides c) (cabinetsOf c) overrides options).build inputs) := by
  intro fault hfault
  have hmisplaced := failsOnly_build_perCabinet fault hfault
  cases fault
  case outOfRange block name cidr =>
    obtain ⟨hname, hcidr, pin, ⟨d, hselected, hpin⟩, hblock, houtside⟩ := hmisplaced
    obtain ⟨g, hg, hd, haccepts⟩ := Cabinet.mem_select.mp hselected
    obtain ⟨own, hclass⟩ := Option.isSome_iff_exists.mp
      ((Cabinet.validate_eq_ok.mp hvalid).1 g hg)
    have hinside := hhome g hg d hd own hclass overrides pin hpin
    rcases homeNetwork_of_accepts hclass haccepts overrides with hsame | ⟨rfl, htwo⟩
    · exact absurd (hsame ▸ hinside) houtside
    · exact ⟨g, hg, d, hd, overrides, pin, htwo, hpin, hblock, hname, hcidr⟩
  all_goals trivial

/-- A block that a cabinet with two homes must get keeps the networks from being built, for it
cannot lie in the network of racks. -/
theorem build_ne_ok_of_twoHomed (hhome : PinnedAtHome inputs.cabinets) {g : Cabinet.Group}
    (hg : g ∈ inputs.cabinets) {d : Cabinet.Detail} (hd : d ∈ g.details)
    (htwo : twoHomedCabinets g d = true) {overrides : Overrides} {pin : Cidr}
    (hpin : overrides.subnet? d = some pin) (n : Network) :
    (perCabinet (homeNetwork overrides .river) (cabinetsOf .river) overrides options).build
      inputs ≠ .ok n := by
  intro hbuild
  obtain ⟨hliquid, hcooled⟩ := Bool.and_eq_true_iff.mp htwo
  have haccepts : cabinetsOf .river g d = true := Bool.or_eq_true_iff.mpr (.inr hcooled)
  obtain ⟨hcidr, hhonours⟩ := honours_of_build_perCabinet hbuild
  obtain ⟨_, _, _, hriver⟩ := hhonours d (Cabinet.mem_select.mpr ⟨g, hg, hd, haccepts⟩) pin hpin
  rw [hcidr] at hriver
  obtain ⟨own, hclass, hown⟩ : ∃ own, g.hardwareClass? = some own ∧ own ≠ .river := by
    rcases Bool.or_eq_true_iff.mp hliquid with hhill | hmountain
    · exact ⟨.hill, by simpa [Cabinet.Filter.ofClass] using hhill, by decide⟩
    · exact ⟨.mountain, by simpa [Cabinet.Filter.ofClass] using hmountain, by decide⟩
  have hhomed := hhome g hg d hd own hclass overrides pin hpin
  -- the first address of the block would lie in both networks
  have hinside := hriver _ pin.contains_network
  have houtside := disjoint_homeNetwork hown overrides _ hinside
  rw [hhomed _ pin.contains_network] at houtside
  cases houtside

/-- Every cabinet that gets a subnet in the home networks of its class has there the block that it
must get. -/
def HonoursPins (cabinets : List Cabinet.Group) (networks : SortedMap Network) : Prop :=
  ∀ g ∈ cabinets, ∀ d ∈ g.details, ∀ c, g.hardwareClass? = some c → cabinetsOf c g d = true →
    ∀ overrides pin, Overrides.subnet? overrides d = some pin →
      ∃ n, networks.get? (homeNetwork overrides c).name = some n ∧ n.Honours d pin

/-- Networks that were built honour the blocks that cabinets must get. -/
theorem honoursPins_of_buildAll {networks : SortedMap Network}
    (hbuild : buildAll (standard options) inputs = .ok networks) :
    HonoursPins inputs.cabinets networks := by
  intro g hg d hd c _ haccepts overrides pin hpin
  obtain ⟨n, hget, hn⟩ := get?_buildInto (fun _ => wellFormed_standard)
    (nodup_names_standard options) hbuild _ (perCabinet_mem_standard overrides c options)
  have hselected := Cabinet.mem_select.mpr ⟨g, hg, hd, haccepts⟩
  exact ⟨n, hget, (honours_of_build_perCabinet hn).2 d hselected pin hpin⟩

/-- Blocks that cabinets must get: in valid groups all of whose blocks lie in the home networks of
their cabinets, a block is out of range only if a cabinet with two homes must get it, and the
network is that of racks. As soon as a cabinet with two homes must get a block, the networks
cannot be built at all, and networks that were built honour every block. -/
theorem twoHomedPin_of_outOfRange (hvalid : Cabinet.validate inputs.cabinets = .ok ())
    (hhome : PinnedAtHome inputs.cabinets) (options : Layout.Options) :
    (∀ block name cidr,
      buildAll (standard options) inputs = .error (.outOfRange block name cidr) →
        TwoHomedPin inputs.cabinets block name cidr) ∧
    ((∃ block name cidr, TwoHomedPin inputs.cabinets block name cidr) →
      ∀ networks, buildAll (standard options) inputs ≠ .ok networks) ∧
    ∀ networks, buildAll (standard options) inputs = .ok networks →
      HonoursPins inputs.cabinets networks := by
  refine ⟨?_, ?_, fun networks => honoursPins_of_buildAll⟩
  · intro block name cidr hfault
    have hall : ∀ l ∈ standard options,
        FailsOnly (BlamesTwoHomed inputs.cabinets) (l.build inputs) := by
      intro l hl
      rcases eq_perCabinet_of_mem_standard hl with hnone | ⟨overrides, c, rfl⟩
      · exact (failsOnly_build_of_eq_none hnone inputs).mono fun _ => blamesTwoHomed_of_isInRange
      · exact failsOnly_build_homeNetwork hvalid hhome overrides c
    exact failsOnly_buildInto hall .empty _ hfault
  · rintro ⟨_, _, _, g, hg, d, hd, overrides, pin, htwo, hpin, _⟩ networks hbuild
    obtain ⟨n, _, hn⟩ := get?_buildInto (fun _ => wellFormed_standard)
      (nodup_names_standard options) hbuild _ (perCabinet_mem_standard overrides .river options)
    exact build_ne_ok_of_twoHomed hhome hg hd htwo hpin n hn

end

/-- A liquid-cooled EX2500 with so many chassis for air cooling that must get a block. -/
def pinnedSystem (airCooled : UInt32) : Layout.Inputs where
  cabinets := [{
    kind := "EX2500"
    ids := [8000]
    total := 1
    details := [{
      id := 8000
      model := some "EX2500"
      chassisCount := some ⟨1, airCooled⟩
      nmnSubnet := some (.ofOctets 10 100 0 0 22) }] }]

/-- The block of the EX2500 lies in its home network. -/
theorem pinnedAtHome_pinnedSystem (airCooled : UInt32) :
    PinnedAtHome (pinnedSystem airCooled).cabinets := by
  intro g hg d hd c hclass overrides pin hpin
  obtain rfl := List.mem_singleton.mp hg
  obtain rfl := List.mem_singleton.mp hd
  have hhill : Cabinet.Group.classOfKind? "EX2500" = some .hill := by decide +kernel
  obtain rfl := Option.some.inj (hhill.symm.trans hclass)
  cases overrides with
  | nmn =>
    cases hpin
    exact Cidr.within_iff.mpr (by decide)
  | hmn => cases hpin

/-- The EX2500 is a valid group of its own. -/
theorem validate_pinnedSystem (airCooled : UInt32) :
    Cabinet.validate (pinnedSystem airCooled).cabinets = .ok () := by
  have hsame : Cabinet.validate (pinnedSystem airCooled).cabinets =
      Cabinet.validate (pinnedSystem 0).cabinets := rfl
  rw [hsame]
  decide +kernel

/-- With a chassis for air cooling the block is wanted from the network of racks first. -/
theorem buildAll_pinnedSystem :
    buildAll (standard {}) (pinnedSystem 1) =
      .error (.outOfRange (.ofOctets 10 100 0 0 22) "NMN_RVR" (.ofOctets 10 106 0 0 17)) := by
  decide +kernel

/-- The block of an EX2500 is honoured as long as the cabinet has one home, and it is out of range
in the network of racks when the cabinet has a chassis for air cooling. -/
theorem twoHomedPin_of_outOfRange_pinnedSystem :
    (∀ airCooled, Cabinet.validate (pinnedSystem airCooled).cabinets = .ok () ∧
      PinnedAtHome (pinnedSystem airCooled).cabinets) ∧
    (∃ networks, buildAll (standard {}) (pinnedSystem 0) = .ok networks ∧
      HonoursPins (pinnedSystem 0).cabinets networks) ∧
    TwoHomedPin (pinnedSystem 1).cabinets (.ofOctets 10 100 0 0 22) "NMN_RVR"
      (.ofOctets 10 106 0 0 17) ∧
    ∀ networks, buildAll (standard {}) (pinnedSystem 1) ≠ .ok networks := by
  obtain ⟨_, _, hhonours⟩ :=
    twoHomedPin_of_outOfRange (validate_pinnedSystem 0) (pinnedAtHome_pinnedSystem 0) {}
  obtain ⟨hblamed, hnever, _⟩ :=
    twoHomedPin_of_outOfRange (validate_pinnedSystem 1) (pinnedAtHome_pinnedSystem 1) {}
  obtain ⟨networks, hbuild⟩ : ∃ networks,
      buildAll (standard {}) (pinnedSystem 0) = .ok networks :=
    exists_of_isOk (by decide +kernel)
  have hpin := hblamed _ _ _ buildAll_pinnedSystem
  exact ⟨fun airCooled => ⟨validate_pinnedSystem airCooled, pinnedAtHome_pinnedSystem airCooled⟩,
    ⟨networks, hbuild, hhonours networks hbuild⟩, hpin, hnever ⟨_, _, _, hpin⟩⟩

/-- A block that lies in the home network of its cabinet can be out of range. -/
theorem not_forall_pinsInRange :
    ¬∀ (options : Layout.Options) (inputs : Layout.Inputs),
      Cabinet.validate inputs.cabinets = .ok () → PinnedAtHome inputs.cabinets →
      ∀ block name cidr,
        buildAll (standard options) inputs ≠ .error (.outOfRange block name cidr) := by
  intro hall
  exact hall {} _ (validate_pinnedSystem 1) (pinnedAtHome_pinnedSystem 1) _ _ _
    buildAll_pinnedSystem

end SitePlan.Plan
