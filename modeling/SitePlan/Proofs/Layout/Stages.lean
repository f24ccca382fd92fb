import SitePlan.Layout.Basic
import SitePlan.Proofs.Network.Planned
import SitePlan.Proofs.Subnet.Requests

/-!
# The stages of a layout

Every stage of a layout adds prepared subnets to the network or leaves it as it is, so a
network that a layout builds is in order. Only fixed addresses need a look at the numbers:
they have to lie inside the first subnet of the network and above its gateway.
-/

namespace SitePlan.Layout

open Outcome Network

/-- The number of the address that a pin fixes in a block from this number on. -/
def pinnedNumber (first : Nat) (octet : UInt8) : Nat := first / 256 * 256 + octet.toNat

/-- The fixed addresses lie above the gateway and below the last address of the block that
the first subnet of the network gets. -/
def PinsFit (l : Layout) : Prop :=
  ∀ bits ∈ l.bootstrapBits, ∀ p ∈ l.pins,
    let first := alignUp l.template.cidr.first (Cidr.sizeOf bits)
    first + 1 < pinnedNumber first p.octet ∧
      pinnedNumber first p.octet + 1 < first + Cidr.sizeOf bits

/-- A run that must not stop half-way is complete when it ends without a fault. -/
theorem complete_eq_ok {result : Except AddressError Unit × Subnet} {s : Subnet} :
    complete result = .ok s ↔ result = (.ok (), s) := by
  obtain ⟨outcome, t⟩ := result
  cases outcome <;> simp [complete]

/-- Fixing addresses is reserving, as long as they lie inside the subnet and above its
gateway. -/
theorem reservedFrom_pinAll {s t : Subnet} {pins : List Pin}
    (hinside : ∀ p ∈ pins, s.cidr.first < (s.pinnedAddress p.octet).value ∧
      (s.pinnedAddress p.octet).value < s.cidr.last)
    (hgateway : ∀ p ∈ pins, s.pinnedAddress p.octet ≠ s.gateway)
    (hpins : pinAll s pins = .ok t) : s.ReservedFrom t := by
  induction pins generalizing s with
  | nil =>
    cases hpins
    exact .start
  | cons p rest ih =>
    unfold pinAll at hpins
    split at hpins
    · cases hpins
    · next r u hpin =>
      have hu : s.ReservedFrom u := by
        rcases Subnet.pin_cases (hinside p List.mem_cons_self)
          (hgateway p List.mem_cons_self) hpin with ⟨_, rfl⟩ | ⟨hr, _, _, rfl⟩
        · exact .start
        · exact Subnet.ReservedFrom.start.push hr
      -- Reserving leaves the block and the gateway alone, and with them the conditions.
      have heq := hu.eq_reservations
      refine hu.trans (ih ?_ ?_ hpins)
      · rw [heq]
        exact fun p hp => hinside p (List.mem_cons_of_mem _ hp)
      · rw [heq]
        exact fun p hp => hgateway p (List.mem_cons_of_mem _ hp)

/-- Reserving addresses for management nodes is reserving. -/
theorem reservedFrom_addressNodes {l : Layout} {inputs : Inputs} {network : String}
    {s t : Subnet} (hnodes : l.addressNodes inputs network s = .ok t) :
    s.ReservedFrom t := by
  unfold addressNodes at hnodes
  split at hnodes
  · have hall := s.reservedFrom_reserveNodes network inputs.nodes
    rwa [complete_eq_ok.mp hnodes] at hall
  · cases hnodes
    exact .start

/-- The first subnet of a network without subnets gets the first block of its size. -/
theorem first_of_freeBlock? {n : Network} {bits : Nat} {c : Cidr} (hnone : n.subnets = [])
    (hfree : n.freeBlock? bits [] = some c) :
    c.first = alignUp n.cidr.first (Cidr.sizeOf bits) ∧ c.size = Cidr.sizeOf bits := by
  simp only [freeBlock?, hnone, List.map_nil, List.append_nil, sortBy, List.foldr_nil,
    sweep] at hfree
  split at hfree
  · obtain ⟨hvalue, _, hsize⟩ := Cidr.of_ofNat? hfree
    have hdvd : c.size ∣ c.address.value := by
      rw [hvalue, hsize]
      exact dvd_alignUp _ _
    exact ⟨(Cidr.first_eq_of_dvd hdvd).trans hvalue, hsize⟩
  · cases hfree

/-- In the first subnet of a network the fixed addresses lie inside it and are not the
gateway's. -/
theorem PinsFit.spec {l : Layout} {bits : Nat} {name : String} {vlan : UInt16} {s : Subnet}
    (hfit : l.PinsFit) (hnone : l.template.subnets = []) (hbits : l.bootstrapBits = some bits)
    (hcarve : l.template.carve bits name vlan = .ok s) :
    ∀ p ∈ l.pins, (s.cidr.first < (s.pinnedAddress p.octet).value ∧
      (s.pinnedAddress p.octet).value < s.cidr.last) ∧ s.pinnedAddress p.octet ≠ s.gateway := by
  intro p hp
  obtain ⟨hcarved, hfree⟩ := carve_spec hcarve
  obtain ⟨hfirst, hsize⟩ := first_of_freeBlock? hnone hfree
  obtain ⟨hlow, hhigh⟩ := hfit bits hbits p hp
  rw [← hfirst] at hlow hhigh
  rw [← hsize] at hhigh
  have hlast := s.cidr.last_lt
  simp only [Cidr.last] at hlast ⊢
  have hvalue : (s.pinnedAddress p.octet).value = pinnedNumber s.cidr.first p.octet :=
    Ipv4.value_clamp (n := pinnedNumber s.cidr.first p.octet) (by omega)
  have hgateway : s.gateway.value = s.cidr.first + 1 := by
    rw [hcarved.gateway_eq]
    exact Ipv4.value_clamp (by omega)
  refine ⟨by omega, fun heq => ?_⟩
  have hsame := congrArg Ipv4.value heq
  omega

/-- The first stage adds a subnet once its fixed addresses and those of the management nodes
are reserved and the rest is set aside, if the layout has such a subnet. -/
theorem addBootstrap_cases {l : Layout} {inputs : Inputs} {n m : Network}
    (hok : l.addBootstrap inputs n = .ok m) :
    (l.bootstrapBits = none ∧ m = n) ∨
      ∃ bits s pinned named ranged, l.bootstrapBits = some bits ∧
        n.carve bits "bootstrap_dhcp" l.vlan = .ok s ∧
        pinAll { s with fullName := l.networkName ++ " Bootstrap DHCP Subnet" } l.pins =
          .ok pinned ∧
        l.addressNodes inputs n.name pinned = .ok named ∧
        named.updateDhcpRange = .ok ranged ∧ m = n.push ranged := by
  unfold addBootstrap at hok
  split at hok
  · next hbits => exact .inl ⟨hbits, (pure_eq_ok.mp hok).symm⟩
  · next bits hbits =>
    obtain ⟨s, hcarve, hok⟩ := bind_eq_ok.mp hok
    obtain ⟨pinned, hpins, hok⟩ := bind_eq_ok.mp hok
    obtain ⟨named, hnodes, hok⟩ := bind_eq_ok.mp hok
    obtain ⟨ranged, hrange, hok⟩ := bind_eq_ok.mp hok
    obtain rfl := pure_eq_ok.mp hok
    exact .inr ⟨bits, s, pinned, named, ranged, hbits, hcarve, hpins, hnodes, hrange, rfl⟩

/-- In the first stage fixed addresses and those of the management nodes are reserved in the
new subnet. -/
theorem reservedFrom_bootstrap {l : Layout} {inputs : Inputs} {bits : Nat} {network : String}
    {s pinned named : Subnet} (hfit : l.PinsFit) (hnone : l.template.subnets = [])
    (hbits : l.bootstrapBits = some bits)
    (hcarve : l.template.carve bits "bootstrap_dhcp" l.vlan = .ok s)
    (hpins : pinAll { s with fullName := l.networkName ++ " Bootstrap DHCP Subnet" } l.pins =
      .ok pinned)
    (hnodes : l.addressNodes inputs network pinned = .ok named) :
    Subnet.ReservedFrom { s with fullName := l.networkName ++ " Bootstrap DHCP Subnet" }
      named := by
  have hspec := hfit.spec hnone hbits hcarve
  have hpinned : Subnet.ReservedFrom
      { s with fullName := l.networkName ++ " Bootstrap DHCP Subnet" } pinned :=
    reservedFrom_pinAll (fun p hp => (hspec p hp).1) (fun p hp => (hspec p hp).2) hpins
  exact hpinned.trans (reservedFrom_addressNodes hnodes)

/-- The first stage adds a prepared subnet or none. -/
theorem grown_addBootstrap {l : Layout} {inputs : Inputs} {m : Network} (hfit : l.PinsFit)
    (hnone : l.template.subnets = []) (hok : l.addBootstrap inputs l.template = .ok m) :
    l.template.Grown Prepares m := by
  obtain ⟨_, rfl⟩ | ⟨bits, s, pinned, named, ranged, hbits, hcarve, hpins, hnodes, hrange,
    rfl⟩ := addBootstrap_cases hok
  · exact .start
  · have hcarved := (carve_spec hcarve).1.setFullName
      (l.networkName ++ " Bootstrap DHCP Subnet")
    have hreserved := reservedFrom_bootstrap hfit hnone hbits hcarve hpins hnodes
    exact Grown.start.push (hcarved.prepares_ranged hreserved hrange)

/-- The stage of the switches adds a new subnet in which the switches and those to come have
addresses, if the layout has such a subnet. -/
theorem addHardware_cases {l : Layout} {inputs : Inputs} {n m : Network}
    (hok : l.addHardware inputs n = .ok m) :
    (l.hardwareBits = none ∧ m = n) ∨
      ∃ fresh reserved, n.Carved "network_hardware" l.vlan fresh ∧
        fresh.reserveSwitches (.ofSwitches inputs.switches) l.spareSwitches = (.ok (), reserved) ∧
        m = n.push reserved := by
  unfold addHardware at hok
  split at hok
  · next hbits => exact .inl ⟨hbits, (pure_eq_ok.mp hok).symm⟩
  · obtain ⟨s, hcarve, hok⟩ := bind_eq_ok.mp hok
    obtain ⟨reserved, hswitches, hok⟩ := bind_eq_ok.mp hok
    obtain rfl := pure_eq_ok.mp hok
    have hcarved := (carve_spec hcarve).1.setFullName
      (l.networkName ++ " Management Network Infrastructure")
    exact .inr ⟨_, reserved, hcarved, complete_eq_ok.mp hswitches, rfl⟩

/-- The stage of the switches adds a prepared subnet or none. -/
theorem grown_addHardware {l : Layout} {inputs : Inputs} {n m : Network}
    (hok : l.addHardware inputs n = .ok m) : n.Grown Prepares m := by
  obtain ⟨_, rfl⟩ | ⟨fresh, reserved, hcarved, hswitches, rfl⟩ := addHardware_cases hok
  · exact .start
  · have hreserved : fresh.ReservedFrom reserved := by
      simpa only [hswitches] using Subnet.reservedFrom_reserveSwitches fresh
        (.ofSwitches inputs.switches) l.spareSwitches
    exact Grown.start.push (hcarved.prepares hreserved)

/-- The stage of the user access instances adds a prepared subnet or none. -/
theorem grown_addUai {l : Layout} {n m : Network} (hok : l.addUai n = .ok m) :
    n.Grown Prepares m := by
  unfold addUai at hok
  split at hok
  · obtain rfl := pure_eq_ok.mp hok
    exact .start
  · obtain ⟨s, hcarve, hok⟩ := bind_eq_ok.mp hok
    obtain ⟨t, hservices, hok⟩ := bind_eq_ok.mp hok
    obtain ⟨u, hrange, hok⟩ := bind_eq_ok.mp hok
    obtain rfl := pure_eq_ok.mp hok
    have hcarved := (carve_spec hcarve).1.setFullName (shortName l.networkName ++ " UAIs")
    have hreserved := Subnet.reservedFrom_reserveAll
      { s with fullName := shortName l.networkName ++ " UAIs" } uaiServices
    rw [complete_eq_ok.mp hservices] at hreserved
    exact Grown.start.push (hcarved.prepares_ranged hreserved hrange)

/-- The stage of the pools adds two prepared subnets or none. -/
theorem grown_addPools {l : Layout} {n m : Network} (hok : l.addPools n = .ok m) :
    n.Grown Prepares m := by
  unfold addPools at hok
  split at hok
  · obtain ⟨fixed, hfixed, hok⟩ := bind_eq_ok.mp hok
    obtain ⟨dynamic, hdynamic, hok⟩ := bind_eq_ok.mp hok
    obtain rfl := pure_eq_ok.mp hok
    exact (Grown.start.push (((carve_spec hfixed).1.prepares .start).relabel _ _)).push
      (((carve_spec hdynamic).1.prepares .start).relabel _ _)
  · obtain rfl := pure_eq_ok.mp hok
    exact .start

/-- The stage of the subnet that fills the network adds a prepared subnet or none. -/
theorem grown_addBase {l : Layout} {n m : Network} (hok : l.addBase n = .ok m) :
    n.Grown Prepares m := by
  unfold addBase at hok
  split at hok
  · obtain rfl := pure_eq_ok.mp hok
    exact .start
  · obtain ⟨s, hcarve, hok⟩ := bind_eq_ok.mp hok
    obtain rfl := pure_eq_ok.mp hok
    exact Grown.start.push (((carveBiggest_spec hcarve).prepares .start).relabel _ _)

/-- The stage of the cabinets adds prepared subnets. -/
theorem grown_addCabinets {l : Layout} {inputs : Inputs} {n m : Network}
    (hok : l.addCabinets inputs n = .ok m) : n.Grown Prepares m := by
  unfold addCabinets at hok
  split at hok
  · cases hok
    exact .start
  · next division _ =>
    have hgrown := grown_addCabinetSubnets n inputs.cabinets division.bits division.accepts
      division.overrides
    split at hok
    · next k hadded =>
      cases hok
      rw [hadded] at hgrown
      exact hgrown.mono fun _ _ => Carves.prepares
    · cases hok

/-- The stages after that of the switches add prepared subnets. -/
theorem exists_addHardware_of_carveAll {l : Layout} {inputs : Inputs} {m : Network}
    (hok : l.carveAll inputs = .ok m) :
    ∃ n k, l.addBootstrap inputs l.template = .ok n ∧ l.addHardware inputs n = .ok k ∧
      k.Grown Prepares m := by
  obtain ⟨n, hbootstrap, hok⟩ := bind_eq_ok.mp hok
  obtain ⟨k, hhardware, hok⟩ := bind_eq_ok.mp hok
  obtain ⟨_, huai, hok⟩ := bind_eq_ok.mp hok
  obtain ⟨_, hpools, hok⟩ := bind_eq_ok.mp hok
  obtain ⟨_, hbase, hcabinets⟩ := bind_eq_ok.mp hok
  refine ⟨n, k, hbootstrap, hhardware, ?_⟩
  exact (((grown_addUai huai).trans (grown_addPools hpools)).trans (grown_addBase hbase)).trans
    (grown_addCabinets hcabinets)

/-- All stages together add prepared subnets after the first one. -/
theorem grown_carveAll {l : Layout} {inputs : Inputs} {m : Network}
    (hok : l.carveAll inputs = .ok m) :
    ∃ n, l.addBootstrap inputs l.template = .ok n ∧ n.Grown Prepares m := by
  obtain ⟨n, _, hbootstrap, hhardware, hrest⟩ := exists_addHardware_of_carveAll hok
  exact ⟨n, hbootstrap, (grown_addHardware hhardware).trans hrest⟩

/-- A network that a layout carves is in order and keeps its name and block. -/
theorem wellPlanned_carveAll {l : Layout} {inputs : Inputs} {m : Network} (hfit : l.PinsFit)
    (hnone : l.template.subnets = []) (hok : l.carveAll inputs = .ok m) :
    m.WellPlanned ∧ m.name = l.template.name ∧ m.cidr = l.template.cidr := by
  obtain ⟨n, hbootstrap, hrest⟩ := grown_carveAll hok
  have hgrown := (grown_addBootstrap hfit hnone hbootstrap).trans hrest
  obtain ⟨added, hm⟩ := hgrown.eq_append
  refine ⟨hgrown.wellPlanned (wellPlanned_of_subnets_eq_nil hnone), ?_, ?_⟩
  · rw [hm]
  · rw [hm]

end SitePlan.Layout
