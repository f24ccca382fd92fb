import SitePlan.Address.Document
import SitePlan.Cabinet.Group

/-!
# Cabinets in documents
-/

namespace SitePlan.Cabinet

open Document

variable {δ : Type} [Document δ]

/-- Chassis counts in a document. A count that is missing is zero. -/
def ChassisCount.read? (d : δ) : Option ChassisCount := do
  let r ← record? ["liquid-cooled", "air-cooled"] d
  return {
    liquidCooled := ← r.withDefault? "liquid-cooled" 0 uint32?
    airCooled := ← r.withDefault? "air-cooled" 0 uint32? }

/-- Chassis counts in JSON. -/
def ChassisCount.toJson (c : ChassisCount) : Json :=
  .object [("liquid-cooled", .natural c.liquidCooled.toNat),
    ("air-cooled", .natural c.airCooled.toNat)]

/-- A cabinet in a document. -/
def Detail.read? (d : δ) : Option Detail := do
  let r ← record? ["id", "model", "chassis-count", "nmn-subnet", "nmn-vlan", "hmn-subnet",
    "hmn-vlan"] d
  return {
    id := ← r.required? "id" uint32?
    model := ← r.optional? "model" text?
    chassisCount := ← r.optional? "chassis-count" ChassisCount.read?
    nmnSubnet := ← r.optional? "nmn-subnet" Cidr.read?
    nmnVlan := ← r.optional? "nmn-vlan" uint16?
    hmnSubnet := ← r.optional? "hmn-subnet" Cidr.read?
    hmnVlan := ← r.optional? "hmn-vlan" uint16? }

/-- A cabinet in JSON. -/
def Detail.toJson (d : Detail) : Json :=
  let vlan (n : UInt16) : Json := .natural n.toNat
  .object (
    [("id", .natural d.id.toNat)] ++
    Json.optional "model" d.model .string ++
    Json.optional "chassis-count" d.chassisCount ChassisCount.toJson ++
    Json.optional "nmn-subnet" d.nmnSubnet Cidr.toJson ++
    Json.optional "nmn-vlan" d.nmnVlan vlan ++
    Json.optional "hmn-subnet" d.hmnSubnet Cidr.toJson ++
    Json.optional "hmn-vlan" d.hmnVlan vlan)

/-- A group of cabinets in a document. -/
def Group.read? (d : δ) : Option Group := do
  let r ← record? ["type", "total_number", "starting_id", "ids", "cabinet-details"] d
  return {
    kind := ← r.required? "type" text?
    total := ← r.withDefault? "total_number" 0 count?
    startingId := ← r.withDefault? "starting_id" 0 uint32?
    ids := ← r.withDefault? "ids" [] (list? uint32?)
    details := ← r.withDefault? "cabinet-details" [] (list? Detail.read?) }

/-- A group of cabinets in JSON. -/
def Group.toJson (g : Group) : Json :=
  .object (
    [("type", .string g.kind), ("total_number", .natural g.total),
      ("starting_id", .natural g.startingId.toNat)] ++
    Json.nonemptyList "ids" g.ids (fun id => .natural id.toNat) ++
    Json.nonemptyList "cabinet-details" g.details Detail.toJson)

/-- The groups in a cabinets file. -/
def readGroups? (d : δ) : Option (List Group) := do
  let r ← record? ["cabinets"] d
  r.required? "cabinets" (list? Group.read?)

/-- A cabinets file in JSON. -/
def groupsToJson (groups : List Group) : Json :=
  .object [("cabinets", .array (groups.map Group.toJson))]

end SitePlan.Cabinet
