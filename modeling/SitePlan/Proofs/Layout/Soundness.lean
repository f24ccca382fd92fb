import SitePlan.Proofs.Layout.Networks

/-!
# Soundness of the address plan

The standard networks lie apart, and their layouts fix addresses that suit them. So the
networks of every system that can be built hand out each address once: subnets are apart,
reservations lie inside their subnets, and addresses on request are free.
-/

namespace SitePlan.Layout

open Network

instance (l : Layout) : Decidable l.PinsFit :=
  inferInstanceAs (Decidable (∀ bits ∈ l.bootstrapBits, ∀ p ∈ l.pins,
    let first := alignUp l.template.cidr.first (Cidr.sizeOf bits)
    first + 1 < pinnedNumber first p.octet ∧
      pinnedNumber first p.octet + 1 < first + Cidr.sizeOf bits))

/-- What the site does not choose about the subnet in which machines start. -/
def fixedParts (l : Layout) : Network × Option Nat × List Pin × Bool :=
  (l.template, l.bootstrapBits, l.pins, l.reservesNodes)

/-- The site does not choose the templates, nor the sizes of first subnets and the addresses
in them. -/
theorem exists_fixedParts_eq {options : Options} (other : Options) {l : Layout}
    (hl : l ∈ standard options) : ∃ k ∈ standard other, fixedParts k = fixedParts l := by
  have hsame : (standard other).map fixedParts = (standard options).map fixedParts := rfl
  rw [← List.mem_map, hsame]
  exact List.mem_map_of_mem hl

/-- The standard layouts start from empty templates, and their pins fit. -/
theorem wellFormed_standard {options : Options} {l : Layout} (hl : l ∈ standard options) :
    l.WellFormed := by
  have hdefault : ∀ k ∈ standard {}, k.template.subnets = [] ∧ k.PinsFit := by decide
  obtain ⟨k, hk, heq⟩ := exists_fixedParts_eq {} hl
  obtain ⟨hempty, hpins⟩ := hdefault k hk
  simp only [fixedParts, Prod.mk.injEq] at heq
  obtain ⟨htemplate, hbits, hsame, _⟩ := heq
  rw [htemplate] at hempty
  simp only [PinsFit, htemplate, hbits, hsame] at hpins
  exact ⟨hempty, hpins⟩

/-- The templates of the standard layouts are the standard networks. -/
theorem templates_standard (options : Options) :
    (standard options).map (·.template) = standardNetworks := rfl

/-- A standard layout divides a standard network. -/
theorem template_mem_standardNetworks {options : Options} {l : Layout}
    (hl : l ∈ standard options) : l.template ∈ standardNetworks :=
  templates_standard options ▸ List.mem_map_of_mem hl

/-- The standard networks lie apart. -/
theorem templatesApart_standard (options : Options) : TemplatesApart (standard options) := by
  have hnetworks : ∀ n ∈ standardNetworks, ∀ m ∈ standardNetworks, n.name ≠ m.name →
      n.cidr.overlaps m.cidr = false := by decide
  intro a ha b hb hne
  exact Cidr.overlaps_eq_false_iff.mp (hnetworks _ (template_mem_standardNetworks ha) _
    (template_mem_standardNetworks hb) hne)

/-- No standard layout widens its network unless the site chooses so. -/
theorem supernet_standard {options : Options} (hplain : options.supernet = false) :
    ∀ l ∈ standard options, l.supernet = false := by
  simp [standard, management, perCabinet, filled, hplain]

/-- The subnets of all networks. -/
def allSubnets (networks : SortedMap Network) : List Subnet :=
  networks.values.flatMap Network.subnets

/-- What holds of an address plan that hands out each address once. -/
structure SoundPlan (networks : SortedMap Network) : Prop where
  /-- No two subnets have an address in common. -/
  subnetsApart : (allSubnets networks).Pairwise fun s t => s.cidr.Disjoint t.cidr
  /-- Every subnet lies in its network. -/
  subnetsWithin : ∀ n ∈ networks.values, ∀ s ∈ n.subnets, s.cidr.Within n.cidr
  /-- Reservations lie strictly inside their subnet and are not the gateway. -/
  reservedInside : ∀ s ∈ allSubnets networks, ∀ r ∈ s.reservations,
    (s.cidr.first < r.address.value ∧ r.address.value < s.cidr.last) ∧
      r.address ≠ s.gateway
  /-- No address is reserved twice. -/
  reservedOnce : ((allSubnets networks).flatMap Subnet.reservedAddresses).Nodup
  /-- Addresses on request lie strictly inside their subnet and are not handed out. -/
  ranged : ∀ s ∈ allSubnets networks, s.WellRanged

/-- Planned networks that lie apart are a sound plan. -/
theorem soundPlan_of_wellPlanned {networks : SortedMap Network}
    (hplanned : ∀ n ∈ networks.values, n.WellPlanned)
    (hapart : networks.values.Pairwise fun n m => n.cidr.Disjoint m.cidr) :
    SoundPlan networks := by
  have hsubnet : ∀ s ∈ allSubnets networks, s.WellReserved ∧ s.WellRanged := by
    intro s hs
    obtain ⟨n, hn, hs⟩ := List.mem_flatMap.mp hs
    exact ⟨(hplanned n hn).reserved s hs, (hplanned n hn).ranged s hs⟩
  have hsubnets : (allSubnets networks).Pairwise fun s t => s.cidr.Disjoint t.cidr := by
    refine List.pairwise_flatMap.mpr ⟨fun n hn => (hplanned n hn).apart, ?_⟩
    refine hapart.imp_of_mem fun {n m} hn hm hdisjoint s hs t ht => ?_
    exact hdisjoint.mono ((hplanned n hn).within s hs) ((hplanned m hm).within t ht)
  constructor
  · exact hsubnets
  · exact fun n hn => (hplanned n hn).within
  · intro s hs r hr
    have hreserved := (hsubnet s hs).1
    have hmem : r.address ∈ s.reservedAddresses := List.mem_map_of_mem hr
    exact ⟨hreserved.inside _ hmem, fun heq => hreserved.notGateway (heq ▸ hmem)⟩
  · refine List.pairwise_flatMap.mpr ⟨fun s hs => (hsubnet s hs).1.distinct, ?_⟩
    refine hsubnets.imp_of_mem fun {s t} hs ht hdisjoint a ha b hb => ?_
    -- Reserved addresses lie in their blocks, which have no address in common.
    rintro rfl
    have hins := (hsubnet s hs).1.inside a ha
    have hint := (hsubnet t ht).1.inside a hb
    have hout := Cidr.disjoint_iff.mp hdisjoint
    omega
  · exact fun s hs => (hsubnet s hs).2

/-- Soundness of the address plan: whatever cabinets, switches and nodes a system has,
networks that are built without the supernet give a sound plan. -/
theorem soundPlan_standard {options : Options} {inputs : Inputs}
    {networks : SortedMap Network} (hplain : options.supernet = false)
    (hbuild : buildAll (standard options) inputs = .ok networks) : SoundPlan networks := by
  have hl : ∀ l ∈ standard options, l.WellFormed := fun l => wellFormed_standard
  have hsupernet := supernet_standard hplain
  refine soundPlan_of_wellPlanned (fun n hn => ?_) (pairwise_disjoint_buildAll hl hsupernet
    (templatesApart_standard options) hbuild)
  obtain ⟨e, he, rfl⟩ := List.mem_map.mp hn
  obtain ⟨l, hmem, _, hn⟩ := mem_entries_buildAll hl hbuild he
  exact (wellPlanned_build (hl l hmem) (hsupernet l hmem) hn).1

/-- A small system: a rack, a rack with a block of its own, a liquid-cooled cabinet, two
switches and two management nodes. -/
def smallSystem : Inputs where
  cabinets := [
    { kind := "river",
      details := [.ofId 3000, { id := 3001, nmnSubnet := Cidr.parse? "10.106.4.0/24" }] },
    { kind := "mountain", details := [.ofId 1000] }]
  switches := [
    { xname := "x3000c0h33s1", model := "8325", brand := .aruba, role := .spine,
      hostName := "sw-spine-001", managementAddress := none },
    { xname := "x3000c0w31", model := "6300M", brand := .aruba, role := .leafBmc,
      hostName := "sw-leaf-bmc-001", managementAddress := none }]
  nodes := [⟨"x3000c0s1b0n0", "ncn-m001"⟩, ⟨"x3000c0s2b0n0", "ncn-w001"⟩]

/-- The small system has an address plan, and it is sound. -/
theorem soundPlan_smallSystem :
    ∃ networks, buildAll (standard {}) smallSystem = .ok networks ∧ SoundPlan networks := by
  obtain ⟨networks, hbuild⟩ : ∃ networks, buildAll (standard {}) smallSystem = .ok networks :=
    Outcome.exists_of_isOk (by decide +kernel)
  exact ⟨networks, hbuild, soundPlan_standard rfl hbuild⟩

end SitePlan.Layout
