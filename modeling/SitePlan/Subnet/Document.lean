import SitePlan.Address.Document
import SitePlan.Subnet.Basic

/-!
# Subnets in documents
-/

namespace SitePlan

open Document

variable {δ : Type} [Document δ]

/-- A reservation in a document. -/
def Reservation.read? (d : δ) : Option Reservation := do
  let r ← record? ["Name", "IPAddress", "Comment", "Aliases"] d
  return {
    name := ← r.required? "Name" text?
    address := ← r.required? "IPAddress" Ipv4.read?
    comment := ← r.withDefault? "Comment" "" text?
    aliases := ← r.withDefault? "Aliases" [] (list? text?) }

/-- A reservation in JSON. -/
def Reservation.toJson (r : Reservation) : Json :=
  .object (
    [("Name", .string r.name), ("IPAddress", r.address.toJson)] ++
    Json.nonempty "Comment" r.comment ++
    Json.nonemptyList "Aliases" r.aliases .string)

/-- A subnet in a document. -/
def Subnet.read? (d : δ) : Option Subnet := do
  let r ← record? ["Name", "FullName", "CIDR", "Gateway", "VlanID", "IPReservations",
    "DHCPStart", "DHCPEnd", "MetalLBPoolName"] d
  return {
    name := ← r.required? "Name" text?
    fullName := ← r.withDefault? "FullName" "" text?
    cidr := ← r.required? "CIDR" Cidr.read?
    gateway := ← r.required? "Gateway" Ipv4.read?
    vlan := ← r.required? "VlanID" uint16?
    reservations := ← r.withDefault? "IPReservations" [] (list? Reservation.read?)
    dhcpStart := ← r.optional? "DHCPStart" Ipv4.read?
    dhcpEnd := ← r.optional? "DHCPEnd" Ipv4.read?
    poolName := ← r.optional? "MetalLBPoolName" text? }

/-- A subnet in JSON. -/
def Subnet.toJson (s : Subnet) : Json :=
  .object (
    [("Name", .string s.name)] ++
    Json.nonempty "FullName" s.fullName ++
    [("CIDR", s.cidr.toJson), ("Gateway", s.gateway.toJson),
      ("VlanID", .natural s.vlan.toNat)] ++
    Json.nonemptyList "IPReservations" s.reservations Reservation.toJson ++
    Json.optional "DHCPStart" s.dhcpStart Ipv4.toJson ++
    Json.optional "DHCPEnd" s.dhcpEnd Ipv4.toJson ++
    Json.optional "MetalLBPoolName" s.poolName .string)

end SitePlan
