import SitePlan.Synthesis.Basic

/-!
# Hardware in liquid-cooled cabinets

The hardware of liquid-cooled cabinets follows from the cabinets alone: every chassis is
full. Small cabinets come before large ones, and nodes are numbered as they come.
-/

namespace SitePlan.Synthesis

open Hardware Xname

/-- The chassis of a cabinet of a class: as many as are declared, or else the usual ones of
the class. -/
def chassisOf (hardwareClass : Hardware.Class) (cabinet : Cabinet.Detail) : List UInt32 :=
  match cabinet.liquidCooledChassis, hardwareClass with
  | some count, _ => (List.range count.toNat).map Nat.toUInt32
  | none, .hill => [1, 3]
  | none, _ => [0, 1, 2, 3, 4, 5, 6, 7]

/-- The cabinet and the chassis number of every chassis of a class, in the order of the
cabinets file. -/
def chassisOfClass (hardwareClass : Hardware.Class) (cabinets : List Cabinet.Group) :
    List (UInt32 × UInt32) :=
  (Cabinet.groupsOfClass hardwareClass cabinets).flatMap fun group =>
    group.details.flatMap fun cabinet =>
      (chassisOf hardwareClass cabinet).map (cabinet.id, ·)

/-- Every liquid-cooled chassis with its class, the smaller cabinets first. -/
def liquidCooledChassis (cabinets : List Cabinet.Group) : List (Hardware.Class × UInt32 × UInt32) :=
  [Hardware.Class.hill, .mountain].flatMap fun hardwareClass =>
    (chassisOfClass hardwareClass cabinets).map (hardwareClass, ·)

/-- The slot, controller and node number of every node of a chassis. -/
def nodePlaces : List (UInt32 × UInt32 × UInt32) :=
  [0, 1, 2, 3, 4, 5, 6, 7].flatMap fun slot =>
    [0, 1].flatMap fun bmc => [0, 1].map fun node => (slot, bmc, node)

/-- A compute node with this number. -/
def computeNode (nid : UInt64) : NodeProperties := ⟨some nid, .compute, none, [nidName nid]⟩

/-- The record of a node at a slot, controller and node number of a chassis, which takes the next
number. -/
def nodeRecords (hardwareClass : Hardware.Class) (cabinet chassis : UInt32) (nids : NidSequence)
    (place : UInt32 × UInt32 × UInt32) : Except Error (List Record) × NidSequence :=
  let (slot, bmc, node) := place
  let (nid, later) := nids.take
  let made := record (.node cabinet chassis slot bmc node) hardwareClass
    (some (.node (computeNode nid)))
  (made.map fun r => [r], later)

/-- The records of the enclosure and the controller of a chassis. -/
def enclosureRecords (hardwareClass : Hardware.Class) (cabinet chassis : UInt32) :
    Except Error (List Record) := do
  let enclosure ← record (.chassis cabinet chassis) hardwareClass none
  let controller ← record (.chassisBmc cabinet chassis 0) hardwareClass none
  return [enclosure, controller]

/-- The records of a chassis: the enclosure, its controller and its nodes, which are numbered on
from the numbers that were handed out before. -/
def chassisRecords (nids : NidSequence) (place : Hardware.Class × UInt32 × UInt32) :
    Except Error (List Record) × NidSequence :=
  let (hardwareClass, cabinet, chassis) := place
  match enclosureRecords hardwareClass cabinet chassis with
  | .error fault => (.error fault, nids)
  | .ok around =>
    let (nodes, later) :=
      recordsOfEach (nodeRecords hardwareClass cabinet chassis) nids nodePlaces
    (nodes.map (around ++ ·), later)

/-- The records of the hardware in all liquid-cooled cabinets. -/
def liquidCooledHardware (inputs : Inputs) (nids : Nids) : Except Error (List Record) × Nids :=
  let (records, liquidCooled) :=
    recordsOfEach chassisRecords nids.liquidCooled (liquidCooledChassis inputs.cabinets)
  (records, { nids with liquidCooled := liquidCooled })

end SitePlan.Synthesis
