import SitePlan.Network.Document
import SitePlan.Proofs.Address.Text
import SitePlan.Proofs.Document

/-!
# Networks read back

A network is read back with all of its subnets and their reservations. Only that it is sealed is
forgotten, since it is not written.
-/

namespace SitePlan

open Document

variable {δ : Type} [Document δ]

/-! ### Addresses -/

/-- An address is recovered. -/
theorem Ipv4.recovers (ip : Ipv4) : Recovers (δ := δ) read? ip.toJson ip :=
  recovers_textOf ip.parse?_render

/-- A block is recovered, with the bits of its address behind the prefix. -/
theorem Cidr.recovers (c : Cidr) : Recovers (δ := δ) read? c.toJson c :=
  recovers_textOf c.parse?_render

/-! ### Subnets -/

/-- A reservation is written as a record. -/
theorem Reservation.isRecord (reservation : Reservation) : IsRecord reservation.toJson :=
  isRecord_object
    (names_append (names_append (List.Sublist.refl ["Name", "IPAddress"])
      (names_nonempty "Comment" reservation.comment))
      (names_nonemptyList "Aliases" reservation.aliases .string))
    (by decide)

/-- A reservation is recovered. -/
theorem Reservation.recovers (reservation : Reservation) :
    Recovers (δ := δ) read? reservation.toJson reservation := by
  intro d hd
  obtain ⟨r, hr, hfields⟩ :=
    exists_record? hd reservation.isRecord ["Name", "IPAddress", "Comment", "Aliases"]
  have hname : r.required? "Name" text? = some reservation.name :=
    hfields.requiredText? (by decide) rfl
  have haddress : r.required? "IPAddress" Ipv4.read? = some reservation.address :=
    hfields.required? (by decide) rfl reservation.address.recovers
  have hcomment : r.withDefault? "Comment" "" text? = some reservation.comment :=
    hfields.defaultText? (by decide) (by simp [toJson])
  have haliases : r.withDefault? "Aliases" [] (list? text?) = some reservation.aliases :=
    hfields.defaultList? (by decide) (by simp [toJson]) fun name _ => recovers_text name
  simp [read?, hr, hname, haddress, hcomment, haliases]

/-- A subnet is written as a record. -/
theorem Subnet.isRecord (subnet : Subnet) : IsRecord subnet.toJson :=
  isRecord_object
    (names_append (names_append (names_append (names_append (names_append (names_append
      (List.Sublist.refl ["Name"])
      (names_nonempty "FullName" subnet.fullName))
      (List.Sublist.refl ["CIDR", "Gateway", "VlanID"]))
      (names_nonemptyList "IPReservations" subnet.reservations Reservation.toJson))
      (names_optional "DHCPStart" subnet.dhcpStart Ipv4.toJson))
      (names_optional "DHCPEnd" subnet.dhcpEnd Ipv4.toJson))
      (names_optional "MetalLBPoolName" subnet.poolName .string))
    (by decide)

/-- A subnet is recovered. -/
theorem Subnet.recovers (subnet : Subnet) : Recovers (δ := δ) read? subnet.toJson subnet := by
  intro d hd
  obtain ⟨r, hr, hfields⟩ := exists_record? hd subnet.isRecord ["Name", "FullName", "CIDR",
    "Gateway", "VlanID", "IPReservations", "DHCPStart", "DHCPEnd", "MetalLBPoolName"]
  have hname : r.required? "Name" text? = some subnet.name :=
    hfields.requiredText? (by decide) rfl
  have hfullName : r.withDefault? "FullName" "" text? = some subnet.fullName :=
    hfields.defaultText? (by decide) (by simp [toJson])
  have hcidr : r.required? "CIDR" Cidr.read? = some subnet.cidr :=
    hfields.required? (by decide) (by simp [toJson]) subnet.cidr.recovers
  have hgateway : r.required? "Gateway" Ipv4.read? = some subnet.gateway :=
    hfields.required? (by decide) (by simp [toJson]) subnet.gateway.recovers
  have hvlan : r.required? "VlanID" uint16? = some subnet.vlan :=
    hfields.required? (by decide) (by simp [toJson]) (recovers_uint16 subnet.vlan)
  have hreservations : r.withDefault? "IPReservations" [] (list? Reservation.read?) =
      some subnet.reservations :=
    hfields.defaultList? (by decide) (by simp [toJson]) fun reservation _ => reservation.recovers
  have hdhcpStart : r.optional? "DHCPStart" Ipv4.read? = some subnet.dhcpStart :=
    hfields.optional? (by decide) (by simp [toJson]) Ipv4.recovers
  have hdhcpEnd : r.optional? "DHCPEnd" Ipv4.read? = some subnet.dhcpEnd :=
    hfields.optional? (by decide) (by simp [toJson]) Ipv4.recovers
  have hpoolName : r.optional? "MetalLBPoolName" text? = some subnet.poolName :=
    hfields.optional? (by decide) (by simp [toJson]) recovers_text
  simp [read?, hr, hname, hfullName, hcidr, hgateway, hvlan, hreservations, hdhcpStart,
    hdhcpEnd, hpoolName]

/-! ### Networks -/

/-- A range of VLANs is recovered. -/
theorem VlanRange.recovers (range : VlanRange) :
    Recovers (δ := δ) read? range.toJson range := by
  intro d hd
  cases hd with
  | @array _ ds _ _ reads shown =>
    obtain ⟨first, _, hfirst, hrest, rfl⟩ := List.forall₂_cons_right_iff.mp shown
    obtain ⟨last, _, hlast, hend, rfl⟩ := List.forall₂_cons_right_iff.mp hrest
    obtain rfl := List.forall₂_nil_right_iff.mp hend
    simp [read?, reads, recovers_uint16 range.first first hfirst,
      recovers_uint16 range.last last hlast]

/-- A network is written as a record. -/
theorem Network.isRecord (network : Network) : IsRecord network.toJson :=
  isRecord_object
    (names_append (names_append (names_append (names_append
      (List.Sublist.refl ["Name"])
      (names_nonempty "FullName" network.fullName))
      (List.Sublist.refl ["CIDR", "VlanRange", "MTU", "Type"]))
      (names_nonempty "Comment" network.comment))
      (List.Sublist.refl ["Subnets"]))
    (by decide)

/-- A network that is read may grow again. -/
def Network.unsealed (network : Network) : Network := { network with isSealed := false }

/-- A network is recovered, but for being sealed. -/
theorem Network.recovers (network : Network) :
    Recovers (δ := δ) read? network.toJson network.unsealed := by
  intro d hd
  obtain ⟨r, hr, hfields⟩ := exists_record? hd network.isRecord
    ["Name", "FullName", "CIDR", "VlanRange", "MTU", "Type", "Comment", "Subnets"]
  have hname : r.required? "Name" text? = some network.name :=
    hfields.requiredText? (by decide) rfl
  have hfullName : r.withDefault? "FullName" "" text? = some network.fullName :=
    hfields.defaultText? (by decide) (by simp [toJson])
  have hcidr : r.required? "CIDR" Cidr.read? = some network.cidr :=
    hfields.required? (by decide) (by simp [toJson]) network.cidr.recovers
  have hvlanRange : r.required? "VlanRange" VlanRange.read? = some network.vlanRange :=
    hfields.required? (by decide) (by simp [toJson]) network.vlanRange.recovers
  have hmtu : r.required? "MTU" uint16? = some network.mtu :=
    hfields.required? (by decide) (by simp [toJson]) (recovers_uint16 network.mtu)
  have hfabric : r.required? "Type" Fabric.read? = some network.fabric :=
    hfields.required? (by decide) (by simp [toJson])
      (recovers_word network.fabric.ofName?_name)
  have hcomment : r.withDefault? "Comment" "" text? = some network.comment :=
    hfields.defaultText? (by decide) (by simp [toJson])
  have hsubnets : r.withDefault? "Subnets" [] (list? Subnet.read?) = some network.subnets := by
    have hwritten : field? "Subnets" network.toJson =
        some (.array (network.subnets.map Subnet.toJson)) := by
      simp [toJson]
    refine hfields.withDefault? (by decide) (fun hmissing => ?_) (fun part hpart => ?_)
    · rw [hwritten] at hmissing
      cases hmissing
    · rw [hwritten] at hpart
      cases hpart
      exact recovers_list fun subnet _ => subnet.recovers
  simp [read?, hr, hname, hfullName, hcidr, hvlanRange, hmtu, hfabric, hcomment, hsubnets,
    unsealed]

/-- A network is made of texts, numbers, lists and objects. -/
theorem Network.plain (network : Network) : network.toJson.Plain := by
  have hreservation : ∀ reservation : Reservation, reservation.toJson.Plain := fun reservation => by
    simp [Reservation.toJson, Ipv4.toJson]
  have hsubnet : ∀ subnet : Subnet, subnet.toJson.Plain := fun subnet => by
    simp [Subnet.toJson, Ipv4.toJson, Cidr.toJson, hreservation]
  simp [toJson, Cidr.toJson, VlanRange.toJson, hsubnet]

end SitePlan
