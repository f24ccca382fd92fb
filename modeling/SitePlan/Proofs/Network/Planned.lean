import SitePlan.Proofs.Network.Growth
import SitePlan.Proofs.Subnet.OnRequest

/-!
# Networks with addresses handed out

A subnet is carved, addresses are reserved in it, the rest may be set aside, and only then
it is added to its network. What has to hold of a subnet by then is said once, and a network
that grows by such subnets stays in order.
-/

namespace SitePlan.Network

/-- A subnet that can be added to a network with the addresses handed out in it. -/
structure Prepares (n : Network) (s : Subnet) : Prop where
  /-- The network has no subnet of the name. -/
  isNew : s.name ∉ n.subnetNames
  /-- The block can be given to a new subnet. -/
  fits : n.Fits s.cidr
  /-- Its reservations are in order. -/
  reserved : s.WellReserved
  /-- The addresses that it sets aside are its own to give out. -/
  ranged : s.WellRanged

/-- What holds of a network with the addresses handed out in it. -/
structure WellPlanned (n : Network) : Prop extends n.WellCarved where
  /-- The reservations of every subnet are in order. -/
  reserved : ∀ s ∈ n.subnets, s.WellReserved
  /-- The addresses that a subnet sets aside are its own to give out. -/
  ranged : ∀ s ∈ n.subnets, s.WellRanged

/-- Adding a prepared subnet keeps a network in order. -/
theorem WellPlanned.push {n : Network} {s : Subnet} (hn : n.WellPlanned)
    (hs : n.Prepares s) : (n.push s).WellPlanned where
  toWellCarved := hn.toWellCarved.push hs.isNew hs.fits
  reserved := List.forall_mem_append.mpr
    ⟨hn.reserved, fun _ ht => List.mem_singleton.mp ht ▸ hs.reserved⟩
  ranged := List.forall_mem_append.mpr
    ⟨hn.ranged, fun _ ht => List.mem_singleton.mp ht ▸ hs.ranged⟩

/-- Growing by prepared subnets keeps a network in order. -/
theorem Grown.wellPlanned {n m : Network} (hnm : n.Grown Prepares m) (hn : n.WellPlanned) :
    m.WellPlanned := by
  induction hnm with
  | start => exact hn
  | push _ hs ih => exact ih.push hs

/-- A network without subnets is in order. -/
theorem wellPlanned_of_subnets_eq_nil {n : Network} (hnone : n.subnets = []) :
    n.WellPlanned where
  toWellCarved := wellCarved_of_subnets_eq_nil hnone
  reserved := by simp [hnone]
  ranged := by simp [hnone]

/-- A new subnet is prepared once addresses are reserved in it. -/
theorem Carved.prepares {n : Network} {name : String} {vlan : UInt16} {s t : Subnet}
    (hcarved : n.Carved name vlan s) (hst : s.ReservedFrom t) : n.Prepares t := by
  have hnone : s.reservations = [] := by rw [hcarved.created]; rfl
  have hstart : s.dhcpStart = none := by rw [hcarved.created]; rfl
  have hstop : s.dhcpEnd = none := by rw [hcarved.created]; rfl
  have ht := hst.eq_reservations
  have hname : t.name = s.name := by rw [ht]
  have hcidr : t.cidr = s.cidr := by rw [ht]
  constructor
  · rw [hname, hcarved.name_eq]
    exact hcarved.isNew
  · rw [hcidr]
    exact hcarved.fits
  · exact hst.wellReserved (Subnet.wellReserved_of_reservations_eq_nil hnone)
  · rw [ht]
    exact Subnet.wellRanged_of_eq_none hstart hstop

/-- The gateway of a new subnet follows the first address. -/
theorem Carved.gateway_eq {n : Network} {name : String} {vlan : UInt16} {s : Subnet}
    (hcarved : n.Carved name vlan s) : s.gateway = .clamp (s.cidr.first + 1) :=
  congrArg Subnet.gateway hcarved.created

/-- A new subnet is prepared once addresses are reserved in it and the rest is set aside. -/
theorem Carved.prepares_ranged {n : Network} {name : String} {vlan : UInt16}
    {s t u : Subnet} (hcarved : n.Carved name vlan s) (hst : s.ReservedFrom t)
    (hrange : t.updateDhcpRange = .ok u) : n.Prepares u := by
  have hprepared := hcarved.prepares hst
  have hu := Subnet.updateDhcpRange_eq hrange
  have hgateway : t.cidr.first ≤ t.gateway.value := by
    rw [hst.eq_reservations]
    dsimp only
    rw [hcarved.gateway_eq]
    exact Subnet.first_le_gateway_create name s.cidr vlan
  refine ⟨?_, ?_, ?_, Subnet.wellRanged_updateDhcpRange hgateway hrange⟩
  · rw [hu]
    exact hprepared.isNew
  · rw [hu]
    exact hprepared.fits
  · rw [hu]
    exact hprepared.reserved.congr rfl rfl rfl rfl

/-- A prepared subnet may be given its full name and its pool. -/
theorem Prepares.relabel {n : Network} {s : Subnet} (hs : n.Prepares s) (fullName : String)
    (poolName : Option String) :
    n.Prepares { s with fullName := fullName, poolName := poolName } where
  isNew := hs.isNew
  fits := hs.fits
  reserved := hs.reserved.congr rfl rfl rfl rfl
  ranged := ⟨hs.ranged.bothEnds, hs.ranged.ordered, hs.ranged.inside, hs.ranged.free⟩

/-- What carving gives is prepared as it is. -/
theorem Carves.prepares {n : Network} {s : Subnet} (hcarves : n.Carves s) : n.Prepares s := by
  obtain ⟨name, vlan, hcarved⟩ := hcarves
  exact hcarved.prepares .start

end SitePlan.Network
