import SitePlan.Network.Basic
import SitePlan.Subnet.Document

/-!
# Networks in documents

That a network is sealed is not written down.
-/

namespace SitePlan

open Document

variable {δ : Type} [Document δ]

/-- A range of VLANs in a document. -/
def VlanRange.read? (d : δ) : Option VlanRange := do
  match ← items? d with
  | [first, last] => return ⟨← uint16? first, ← uint16? last⟩
  | _ => none

/-- A range of VLANs in JSON. -/
def VlanRange.toJson (r : VlanRange) : Json :=
  .array [.natural r.first.toNat, .natural r.last.toNat]

/-- A technology in a document. -/
def Network.Fabric.read? (d : δ) : Option Network.Fabric := do ofName? (← word? d)

/-- A network in a document. -/
def Network.read? (d : δ) : Option Network := do
  let r ← record? ["Name", "FullName", "CIDR", "VlanRange", "MTU", "Type", "Comment",
    "Subnets"] d
  return {
    name := ← r.required? "Name" text?
    fullName := ← r.withDefault? "FullName" "" text?
    cidr := ← r.required? "CIDR" Cidr.read?
    vlanRange := ← r.required? "VlanRange" VlanRange.read?
    mtu := ← r.required? "MTU" uint16?
    fabric := ← r.required? "Type" Network.Fabric.read?
    comment := ← r.withDefault? "Comment" "" text?
    subnets := ← r.withDefault? "Subnets" [] (list? Subnet.read?) }

/-- A network in JSON. -/
def Network.toJson (n : Network) : Json :=
  .object (
    [("Name", .string n.name)] ++
    Json.nonempty "FullName" n.fullName ++
    [("CIDR", n.cidr.toJson), ("VlanRange", n.vlanRange.toJson),
      ("MTU", .natural n.mtu.toNat), ("Type", .string n.fabric.name)] ++
    Json.nonempty "Comment" n.comment ++
    [("Subnets", .array (n.subnets.map Subnet.toJson))])

end SitePlan
