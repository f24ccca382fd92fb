import SitePlan.Proofs.Layout.Soundness
import SitePlan.Proofs.Network.Sealing

/-!
# Supernets

The supernet comes after everything else: carving, reserving and setting aside do not see
that it is wanted. So a system has an address plan with the supernet exactly when it has
one without, and the two plans differ only in the masks and the gateways of the subnets
that are widened, and in the seals of their networks.
-/

namespace SitePlan

/-- The same subnet under the mask and the gateway of the block around it. -/
structure Subnet.WidenedTo (s : Subnet) (supernet : Cidr) (t : Subnet) : Prop where
  /-- The address stays. -/
  address_eq : t.cidr.address = s.cidr.address
  /-- The mask is that of the block around it. -/
  bits_eq : t.cidr.bits = supernet.bits
  /-- The gateway follows the first address of the block around it. -/
  gateway_eq : t.gateway.value = supernet.first + 1
  /-- Everything else stays. -/
  rest_eq : t = { s with cidr := t.cidr, gateway := t.gateway }

/-- A subnet that takes a block over is widened to it, as long as an address follows the first
one of the block. -/
theorem Subnet.TakesOver.widenedTo {s t : Subnet} {supernet : Cidr}
    (hroom : supernet.first + 1 < 0x100000000) (htaken : s.TakesOver supernet t) :
    s.WidenedTo supernet t := by
  obtain ⟨haddress, hbits, -⟩ := Cidr.of_ofNat? htaken.cidr_eq
  have hgateway : t.gateway.value = min (supernet.first + 1) 0xFFFFFFFF := htaken.gateway_eq
  exact ⟨Ipv4.ext_value haddress, hbits, by omega, htaken.rest_eq⟩

namespace Network

/-- The same network, sealed and with some of its subnets widened. -/
structure SupernetOf (n m : Network) : Prop where
  /-- No more subnets are carved. -/
  isSealed : m.isSealed = true
  /-- Only the subnets of an installation change. -/
  subnets : List.Forall₂ (fun s t =>
    if s.name ∈ widenedSubnets then s.WidenedTo n.cidr t else t = s) n.subnets m.subnets
  /-- Everything else stays. -/
  rest_eq : m = { n with subnets := m.subnets, isSealed := m.isSealed }

/-- The supernet leaves the name of a network alone. -/
@[simp] theorem name_applySupernet (n : Network) : n.applySupernet.name = n.name := rfl

/-- Applying the supernet seals the network and widens the subnets of an installation. -/
theorem supernetOf_applySupernet {n : Network} (hroom : n.cidr.first + 1 < 0x100000000) :
    n.SupernetOf n.applySupernet := by
  refine ⟨rfl, n.forall₂_applySupernet.imp fun s t htaken => ?_, rfl⟩
  split_ifs at htaken ⊢
  · exact htaken.widenedTo hroom
  · exact htaken

end Network

namespace Layout

open Outcome Network

/-- The older networks, which a site may widen. -/
def olderNetworks : List String := ["NMN", "HMN", "MTL", "CAN"]

/-- Under the name of an older network stands the same network with the supernet applied,
and under every other name the same network. -/
def SupernetUnder (name : String) (n m : Network) : Prop :=
  if name ∈ olderNetworks then n.SupernetOf m else m = n

/-- The layout that differs in that an older network is widened. -/
def withSupernet (l : Layout) : Layout :=
  { l with supernet := l.template.name ∈ olderNetworks }

/-- Only the layouts of the older networks see that the site wants the supernet. -/
theorem standard_supernet (options : Options) :
    standard { options with supernet := true } =
      (standard { options with supernet := false }).map withSupernet := rfl

/-- Carving does not see whether the network will be widened. -/
theorem carveAll_withSupernet (l : Layout) (inputs : Inputs) :
    l.withSupernet.carveAll inputs = l.carveAll inputs := rfl

/-- One network is built with the supernet as it is without, and then it is widened if it is
one of the older ones. -/
theorem agree_build {l : Layout} (inputs : Inputs) (hl : l.WellFormed)
    (hplain : l.supernet = false) (hroom : l.template.cidr.first + 1 < 0x100000000) :
    Agree (fun n m => n.name = m.name ∧ SupernetUnder n.name n m)
      (l.build inputs) (l.withSupernet.build inputs) := by
  simp only [build, carveAll_withSupernet, hplain]
  cases hcarve : l.carveAll inputs with
  | error fault => exact .error fault
  | ok n =>
    obtain ⟨_, hname, hcidr⟩ := wellPlanned_carveAll hl.pinsFit hl.isEmpty hcarve
    rw [← hcidr] at hroom
    have hchoice : l.withSupernet.supernet = decide (n.name ∈ olderNetworks) := by
      rw [hname]
      rfl
    refine .ok ?_
    by_cases holder : n.name ∈ olderNetworks
    · have hsupernet := supernetOf_applySupernet hroom
      simpa [SupernetUnder, hchoice, holder] using hsupernet
    · simp [SupernetUnder, hchoice, holder]

/-- Networks that are filed one after another stay in correspondence. -/
theorem agree_buildInto {layouts : List Layout} (inputs : Inputs)
    (hl : ∀ l ∈ layouts, l.WellFormed) (hplain : ∀ l ∈ layouts, l.supernet = false)
    (hroom : ∀ l ∈ layouts, l.template.cidr.first + 1 < 0x100000000)
    {plain widened : SortedMap Network} (hfiled : plain.Corresponds SupernetUnder widened) :
    Agree (SortedMap.Corresponds SupernetUnder) (buildInto inputs plain layouts)
      (buildInto inputs widened (layouts.map withSupernet)) := by
  -- What is on file so far differs between the runs, and only its correspondence is kept.
  induction layouts generalizing plain widened with
  | nil => exact .ok hfiled
  | cons l rest ih =>
    rw [List.forall_mem_cons] at hl hplain hroom
    have hagree := agree_build inputs hl.1 hplain.1 hroom.1
    rw [List.map_cons, buildInto, buildInto]
    generalize l.build inputs = x at hagree ⊢
    generalize l.withSupernet.build inputs = y at hagree ⊢
    cases hagree with
    | error fault => exact .error fault
    | @ok n m hnm =>
      obtain ⟨hname, hunder⟩ := hnm
      simp only [← hname]
      exact ih hl.2 hplain.2 hroom.2 (hfiled.insert hunder)

/-- An address follows the first one of every standard network. -/
theorem room_standard {options : Options} {l : Layout} (hl : l ∈ standard options) :
    l.template.cidr.first + 1 < 0x100000000 := by
  have hnetworks : ∀ n ∈ standardNetworks, n.cidr.first + 1 < 0x100000000 := by decide
  exact hnetworks _ (template_mem_standardNetworks hl)

/-- With the supernet a system stops at the same fault as without, or the two plans
correspond. -/
theorem agree_buildAll_supernet (options : Options) (inputs : Inputs) :
    Agree (SortedMap.Corresponds SupernetUnder)
      (buildAll (standard { options with supernet := false }) inputs)
      (buildAll (standard { options with supernet := true }) inputs) := by
  rw [standard_supernet]
  exact agree_buildInto inputs (fun _ => wellFormed_standard) (supernet_standard rfl)
    (fun _ => room_standard) .nil

/-- The supernet is a step of its own after the plan: a system has an address plan with it
exactly when it has one without. The plans file the same networks under the same names, but
the older networks are sealed, and the subnets of an installation there have the mask of the
network and its gateway. -/
theorem supernet_afterPlan (options : Options) (inputs : Inputs) :
    ((∃ plain, buildAll (standard { options with supernet := false }) inputs = .ok plain) ↔
      ∃ widened, buildAll (standard { options with supernet := true }) inputs = .ok widened) ∧
    ∀ plain widened,
      buildAll (standard { options with supernet := false }) inputs = .ok plain →
      buildAll (standard { options with supernet := true }) inputs = .ok widened →
        plain.Corresponds SupernetUnder widened := by
  have hagree := agree_buildAll_supernet options inputs
  refine ⟨hagree.succeeds_iff, fun plain widened hplain hwidened => ?_⟩
  rw [hplain, hwidened] at hagree
  exact hagree.of_ok

/-- The small system has both plans. -/
theorem supernet_afterPlan_smallSystem :
    ∃ plain widened, buildAll (standard {}) smallSystem = .ok plain ∧
      buildAll (standard { supernet := true }) smallSystem = .ok widened ∧
      plain.Corresponds SupernetUnder widened := by
  obtain ⟨hboth, hplans⟩ := supernet_afterPlan {} smallSystem
  obtain ⟨plain, hplain⟩ : ∃ plain, buildAll (standard {}) smallSystem = .ok plain :=
    exists_of_isOk (by decide +kernel)
  obtain ⟨widened, hwidened⟩ := hboth.mp ⟨plain, hplain⟩
  exact ⟨plain, widened, hplain, hwidened, hplans plain widened hplain hwidened⟩

end Layout

end SitePlan
