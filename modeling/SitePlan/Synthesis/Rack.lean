import SitePlan.Cabling.Device
import SitePlan.Synthesis.Basic

/-!
# Hardware in racks

Each row of the cabling sheet gives the record of its device and, if the device is wired
to a switch, the record of the switch connector. Doors, management switches and unknown devices
give none. A device that other rows name as their enclosure is recorded as the controller
of that enclosure, whatever kind of node it seems to be.
-/

namespace SitePlan.Synthesis

open Cabling Hardware Xname

/-- The number of the controller of an enclosure. -/
def enclosureController : UInt32 := 999

/-- How many nodes share an enclosure. -/
def nodesPerEnclosure : UInt64 := 4

/-- The height of every device that a row names as its enclosure, added by name to those
already known. Of several rows of one name the last one says where the device stands. -/
def enclosuresInto (rows : SortedMap Row) (known : SortedMap UInt32) :
    List Row → Except Error (SortedMap UInt32)
  | [] => .ok known
  | row :: rest =>
    if row.hasParent && !known.contains row.parentKey then
      match rows.get? row.parentKey with
      | none => .error (.missingParent (Text.trimText row.sourceParent) row.source)
      | some parent =>
        match parent.position with
        | .error fault => .error (.cabling fault)
        | .ok position => enclosuresInto rows (known.insert row.parentKey position.height) rest
    else enclosuresInto rows known rest

/-- The height of every device that a row names as its enclosure. -/
def enclosures (rows : List Row) : Except Error (SortedMap UInt32) :=
  enclosuresInto (.ofList (rows.map fun row => (row.key, row))) .empty rows

/-- What the record of a row depends on besides the row. -/
structure RackContext where
  applicationNodes : ApplicationNode.Config
  /-- The switches by location. -/
  switches : SortedMap Switch
  /-- The heights of enclosures by name. -/
  enclosures : SortedMap UInt32

namespace RackContext

/-- The device of the row is an enclosure of others. -/
def isEnclosure (ctx : RackContext) (row : Row) : Bool := ctx.enclosures.contains row.key

/-- The height of the enclosure that the row names. -/
def enclosure? (ctx : RackContext) (row : Row) : Option UInt32 :=
  if row.hasParent then ctx.enclosures.get? row.parentKey else none

end RackContext

/-- What the record of a node says at first; the number is for a management node. Unknown
nodes have no record, and controllers have one of another kind. -/
def nodeProperties? (nid : UInt64) : NodeKind → Option NodeProperties
  | .management role number =>
    some ⟨some nid, .management, some role.subRole, [role.hostName number]⟩
  | .compute nid => some ⟨some nid, .compute, none, [nidName nid]⟩
  | .application subRole => some ⟨none, .application, subRole, []⟩
  | .system | .unknown => none

/-- The controller number of a node in an enclosure: its place by number, or else the half
that the row names. -/
def enclosureBmc (row : Row) : Option UInt64 → Except Error UInt32
  | none => .ok (bmcOrdinal row.side?)
  | some nid =>
    if nid = 0 then .error (.invalidNid nid row.source)
    else .ok ((nid - 1) % nodesPerEnclosure + 1).toUInt32

/-- The slot and the controller number of a node. -/
def nodePlace (ctx : RackContext) (row : Row) (nid : Option UInt64) :
    Except Error (UInt32 × UInt32) := do
  match ctx.enclosure? row with
  | some height => return (height, ← enclosureBmc row nid)
  | none =>
    let position ← row.position.mapError .cabling
    return (position.height, bmcOrdinal position.side)

/-- Host names with further ones after them, none of these twice. -/
def addNames (names : List String) : List String → List String
  | [] => names
  | name :: rest => addNames (if names.contains name then names else names ++ [name]) rest

/-- The record of a node in a rack. -/
def nodeRecord (ctx : RackContext) (row : Row) (rack : UInt32) (properties : NodeProperties) :
    Except Error Record := do
  let (slot, bmc) ← nodePlace ctx row properties.nid
  let place := Component.node rack 0 slot bmc 0
  let names := addNames properties.aliases (ctx.applicationNodes.aliasesFor place.toXname)
  record place .river (some (.node { properties with aliases := names }))

/-- The record of the controller of an enclosure in a rack. It has the location name of a
node controller and is recorded as a chassis controller. -/
def enclosureRecord (row : Row) (rack : UInt32) : Except Error Record := do
  let position ← row.position.mapError .cabling
  let place := Component.nodeBmc rack 0 position.height enclosureController
  (Record.createAs place.toXname (some .chassisBmc) .river none).mapError .hardware

/-- The record of the device of a row in a rack, if it has one; the number is for a
management node. -/
def deviceRecord? (ctx : RackContext) (row : Row) (rack : UInt32) (nid : UInt64) :
    Device → Except Error (Option Record)
  | .door | .mgmtSwitch => .ok none
  | .routerBmc position => do
    let place := Component.routerBmc rack 0 position.height (bmcOrdinal position.side)
    let vault := vaultPath place.toXname
    return some (← record place .river (some (.routerBmc ⟨vault, vault⟩)))
  | .pdu controller => do
    return some (← record (.cabinetPduController rack controller) .river none)
  | .node .system => do return some (← enclosureRecord row rack)
  | .node kind => do
    if ctx.isEnclosure row then return some (← enclosureRecord row rack)
    match nodeProperties? nid kind with
    | some properties => return some (← nodeRecord ctx row rack properties)
    | none => return none

/-- How a brand names the connector with this number. -/
def connectorName? (brand : Switch.Brand) (number : UInt32) : Option String :=
  match brand with
  | .dell => some s!"ethernet1/1/{number.toNat}"
  | .aruba => some s!"1/1/{number.toNat}"
  | .mellanox => none

/-- The record of the switch connector that a row is wired to. -/
def connectorRecord (ctx : RackContext) (row : Row) (nic : String) : Except Error Record := do
  let rack ← (row.rack "destination rack" row.destinationRack).mapError .cabling
  let slot ← (row.number "destination location" row.destinationLocation).mapError .cabling
  let number ← (row.number "destination port" row.destinationConnector).mapError .cabling
  let location := (Component.mgmtSwitch rack 0 slot).toXname
  match ctx.switches.get? location with
  | none => throw (.missingSwitch location row.source)
  | some switch =>
    match connectorName? switch.brand number with
    | none => throw (.unsupportedBrand switch.brand location row.source)
    | some vendorName =>
      record (.mgmtSwitchConnector rack 0 slot number) .river
        (some (.connector ⟨[nic], vendorName⟩))

/-- What the cable of a device is plugged into: the controller of a node, or the device
itself. -/
def cabledNic (device : Record) : String :=
  if device.kind = some .node then device.parent else device.xname

/-- The records of a row whose device and rack are known. -/
def recordsInRack (ctx : RackContext) (row : Row) (rack : UInt32) (nid : UInt64)
    (device : Device) : Except Error (List Record) := do
  match ← deviceRecord? ctx row rack nid device with
  | none => return []
  | some record =>
    if row.isCabled then return [record, ← connectorRecord ctx row (cabledNic record)]
    else return [record]

/-- The row describes a management node that is recorded as one. -/
def takesNid (ctx : RackContext) (row : Row) : Device → Bool
  | .node (.management ..) => !ctx.isEnclosure row
  | _ => false

/-- The records of a row. A management node uses up a number even if its record then
cannot be made. -/
def rowRecords (ctx : RackContext) (nids : NidSequence) (row : Row) :
    Except Error (List Record) × NidSequence :=
  match row.device ctx.applicationNodes with
  | .error fault => (.error (.cabling fault), nids)
  | .ok .door => (.ok [], nids)
  | .ok .mgmtSwitch => (.ok [], nids)
  | .ok device =>
    match row.rack "rack" row.sourceRack with
    | .error fault => (.error (.cabling fault), nids)
    | .ok rack =>
      let (nid, later) := nids.take
      (recordsInRack ctx row rack nid device, if takesNid ctx row device then later else nids)

/-- The records of rows, up to the first row that gives none for a fault. -/
def rowsRecords (ctx : RackContext) (nids : NidSequence) (rows : List Row) :
    Except Error (List Record) × NidSequence :=
  recordsOfEach (rowRecords ctx) nids rows

/-- The switches by location; of several switches at one location the last one counts. -/
def switchesByLocation (switches : List Switch) : SortedMap Switch :=
  .ofList (switches.map fun s => (Xname.normalize s.xname, s))

/-- The records of everything that the cabling sheet describes. -/
def rackHardware (inputs : Inputs) (nids : Nids) (rows : List Row) :
    Except Error (List Record) × Nids :=
  match enclosures rows with
  | .error fault => (.error fault, nids)
  | .ok enclosures =>
    let ctx : RackContext :=
      ⟨inputs.applicationNodes, switchesByLocation inputs.switches, enclosures⟩
    let (records, management) := rowsRecords ctx nids.management rows
    (records, { nids with management := management })

end SitePlan.Synthesis
