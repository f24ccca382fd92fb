import SitePlan.Address.Cidr
import SitePlan.Hardware.Class
import SitePlan.Xname.Component

/-!
# Cabinets

A site declares its cabinets in groups of one kind. A group lists the cabinet IDs, or
gives details for some cabinets, or says where the IDs start and how many there are.
Populating a group settles its IDs and gives every cabinet an entry of details. Details
that were declared are kept, also those for an ID that the group does not list.
-/

namespace SitePlan.Cabinet

/-- How many chassis of each cooling a cabinet has. -/
structure ChassisCount where
  /-- Chassis with liquid cooling, numbered from zero. -/
  liquidCooled : UInt32
  /-- Chassis with air cooling. -/
  airCooled : UInt32
  deriving DecidableEq

/-- One cabinet. -/
structure Detail where
  /-- The cabinet's ordinal. -/
  id : UInt32
  /-- The hardware model. -/
  model : Option String := none
  /-- The chassis, where they are declared. -/
  chassisCount : Option ChassisCount := none
  /-- The block of the node management network that the cabinet must get. -/
  nmnSubnet : Option Cidr := none
  /-- The VLAN of the node management network that the cabinet must get. -/
  nmnVlan : Option UInt16 := none
  /-- The block of the hardware management network that the cabinet must get. -/
  hmnSubnet : Option Cidr := none
  /-- The VLAN of the hardware management network that the cabinet must get. -/
  hmnVlan : Option UInt16 := none
  deriving DecidableEq

namespace Detail

/-- A cabinet of which only the ordinal is known. -/
def ofId (id : UInt32) : Detail where
  id := id

/-- The location name of the cabinet. -/
def xname (d : Detail) : String := (Xname.Component.cabinet d.id).toXname

/-- The number of chassis with liquid cooling, where it is declared. -/
def liquidCooledChassis (d : Detail) : Option UInt32 :=
  d.chassisCount.map ChassisCount.liquidCooled

/-- The number of chassis with air cooling. -/
def airCooledChassis (d : Detail) : UInt32 :=
  match d.chassisCount with
  | none => 0
  | some count => count.airCooled

end Detail

/-- Cabinets of one kind. -/
structure Group where
  /-- The kind or model, as declared. -/
  kind : String
  /-- How many cabinets there are. -/
  total : Nat := 0
  /-- The first ID where IDs are counted out. -/
  startingId : UInt32 := 0
  /-- The IDs, where they are listed. -/
  ids : List UInt32 := []
  /-- What is known of single cabinets. -/
  details : List Detail := []
  deriving DecidableEq

namespace Group

/-- The class that a kind belongs to, in any mixture of ASCII capitals and small
letters. -/
def classOfKind? (kind : String) : Option Hardware.Class :=
  match kind.toLower with
  | "river" => some .river
  | "hill" | "ex2000" | "ex2500" => some .hill
  | "mountain" | "ex3000" | "ex4000" => some .mountain
  | _ => none

/-- The class of the group's cabinets. -/
def hardwareClass? (g : Group) : Option Hardware.Class := classOfKind? g.kind

/-- The IDs of the group's cabinets, in the order of their details. -/
def cabinetIds (g : Group) : List UInt32 := g.details.map Detail.id

/-- The IDs that the declaration asks for: the listed ones; else those of the details,
if there are enough of them; else as many as asked for, counted from the start. -/
def declaredIds (g : Group) : List UInt32 :=
  if g.ids ≠ [] then g.ids
  else if g.details ≠ [] && g.total ≤ g.details.length then g.cabinetIds
  else (List.range g.total).map fun i => g.startingId + i.toUInt32

/-- The IDs followed by those of further details, each of these once. -/
def addStrays (ids : List UInt32) : List Detail → List UInt32
  | [] => ids
  | d :: ds => addStrays (if ids.contains d.id then ids else ids ++ [d.id]) ds

/-- The details of the cabinets with these IDs. What was declared for an ID last goes to
its first occurrence. -/
def detailsFor (declared : List Detail) : List UInt32 → List Detail
  | [] => []
  | id :: ids =>
    ((declared.reverse.find? fun d => d.id = id).getD (.ofId id)) ::
      detailsFor (declared.filter fun d => d.id ≠ id) ids

/-- The group with its IDs settled and one entry of details for each. -/
def populate (g : Group) : Group :=
  let ids := addStrays g.declaredIds g.details
  { g with ids := ids, details := detailsFor g.details ids, total := ids.length }

/-- Each ID gets one entry of details, and the entry is about it. -/
theorem map_id_detailsFor (declared : List Detail) (ids : List UInt32) :
    (detailsFor declared ids).map Detail.id = ids := by
  induction ids generalizing declared with
  | nil => rfl
  | cons id ids ih =>
    simp only [detailsFor, List.map_cons, ih, List.cons.injEq, and_true]
    cases h : declared.reverse.find? fun d => d.id = id with
    | none => rfl
    | some d => simpa using List.find?_some h

/-- A populated group lists the IDs of its details. -/
theorem cabinetIds_populate (g : Group) : g.populate.cabinetIds = g.populate.ids :=
  map_id_detailsFor _ _

end Group

/-- What makes a declaration of cabinets unusable. -/
inductive Error
  /-- A cabinet is declared twice. -/
  | duplicateId (id : UInt32) (firstKind secondKind : String)
  /-- No class is known for a kind. -/
  | unknownKind (kind : String)
  deriving DecidableEq

/-- The fault in words. -/
def Error.message : Error → String
  | .duplicateId id first second =>
    s!"Cabinet ID {id.toNat} is declared by both {first} and {second} cabinets"
  | .unknownKind kind => s!"Unknown cabinet type: {kind}"

/-- Adds the IDs of a group to the IDs seen so far, each with its group's kind. -/
def addIds (kind : String) (seen : List (UInt32 × String)) :
    List UInt32 → Except Error (List (UInt32 × String))
  | [] => .ok seen
  | id :: ids =>
    match seen.lookup id with
    | some first => .error (.duplicateId id first kind)
    | none => addIds kind ((id, kind) :: seen) ids

/-- Checks groups after others whose IDs have been seen. -/
def validateAfter (seen : List (UInt32 × String)) : List Group → Except Error Unit
  | [] => .ok ()
  | g :: gs =>
    if g.hardwareClass?.isNone then .error (.unknownKind g.kind)
    else
      match addIds g.kind seen g.cabinetIds with
      | .error fault => .error fault
      | .ok seen => validateAfter seen gs

/-- The kinds of all groups are known, and no cabinet occurs twice. -/
def validate (groups : List Group) : Except Error Unit := validateAfter [] groups

/-- The groups of one class. -/
def groupsOfClass (c : Hardware.Class) (groups : List Group) : List Group :=
  groups.filter fun g => g.hardwareClass? = some c

end SitePlan.Cabinet
