import SitePlan.ApplicationNode
import SitePlan.Cabinet.Group
import SitePlan.Cabling.Error
import SitePlan.Hardware.Record
import SitePlan.Switch

/-!
# Synthesis of hardware records

A site's hardware records are made from its cabinets, its management switches and its
cabling sheet. Nodes are numbered: management nodes and the compute nodes of liquid-cooled
cabinets by counting on, compute nodes in racks by their names.
-/

namespace SitePlan

/-- A sequence of node numbers that are handed out one after another. -/
structure NidSequence where
  /-- The number that is handed out next. -/
  next : UInt64
  deriving DecidableEq

namespace NidSequence

/-- The sequence after so many more numbers. -/
def skip (nids : NidSequence) (count : Nat) : NidSequence := ⟨nids.next + count.toUInt64⟩

/-- Hands out the next number. -/
def take (nids : NidSequence) : UInt64 × NidSequence := (nids.next, nids.skip 1)

end NidSequence

namespace Synthesis

/-- What records are made from, apart from the cabling sheet. -/
structure Inputs where
  cabinets : List Cabinet.Group := []
  switches : List Switch := []
  applicationNodes : ApplicationNode.Config := {}

/-- The first number of a management node. -/
def firstManagementNid : UInt64 := 100001

/-- The first number of a node in a liquid-cooled cabinet, unless the site chooses one. -/
def firstLiquidCooledNid : UInt64 := 1000

/-- The numbers that are still to be handed out. -/
structure Nids where
  /-- For management nodes. -/
  management : NidSequence := ⟨firstManagementNid⟩
  /-- For the nodes of liquid-cooled cabinets. -/
  liquidCooled : NidSequence := ⟨firstLiquidCooledNid⟩
  deriving DecidableEq

/-- The numbers at the start, where the site chooses the first one of liquid-cooled
cabinets. -/
def Nids.startingAt (first : UInt64) : Nids := { liquidCooled := ⟨first⟩ }

/-- The host name of a numbered node. -/
def nidName (nid : UInt64) : String := "nid" ++ Text.padText 6 nid.toNat

/-- Where the credentials of the device at a location are kept. -/
def vaultPath (xname : String) : String := "vault://hms-creds/" ++ xname

/-- Why no records could be made. -/
inductive Error
  /-- A column of the cabling sheet is at fault. -/
  | cabling (fault : Cabling.Error)
  /-- A record cannot be made or filed. -/
  | hardware (fault : Hardware.Error)
  /-- A switch does not suit its role. -/
  | mgmtSwitch (fault : Switch.Error)
  /-- The location of a switch cannot be read. -/
  | location (fault : Xname.Error)
  /-- The enclosure that a row names has no row. -/
  | missingParent (parent row : String)
  /-- The switch that a row is wired to is not listed. -/
  | missingSwitch (switch row : String)
  /-- It is not known how this brand names its connectors. -/
  | unsupportedBrand (brand : Switch.Brand) (switch row : String)
  /-- The number of a node does not give its place in the enclosure. -/
  | invalidNid (nid : UInt64) (row : String)
  /-- The cabinet that a switch stands in is not declared. -/
  | missingCabinet (switch cabinet : String)
  deriving DecidableEq

/-- The fault in words. -/
def Error.message : Error → String
  | .cabling fault => fault.message
  | .hardware fault => "SLS error: " ++ fault.message
  | .mgmtSwitch fault => "SLS error: " ++ fault.message
  | .location fault => "Xname error: " ++ fault.message
  | .missingParent parent row =>
    s!"HMN row {row} declares parent {parent}, but no row has that source"
  | .missingSwitch switch row =>
    s!"HMN row {row} is cabled to {switch}, which is not in the switch metadata"
  | .unsupportedBrand brand switch row =>
    s!"HMN row {row} is cabled to {brand.name} switch {switch}, which is not supported"
  | .invalidNid nid row =>
    s!"NID {nid.toNat} of HMN row {row} cannot be mapped to an enclosure BMC"
  | .missingCabinet switch cabinet =>
    s!"Switch {switch} is in cabinet {cabinet}, which is not declared in the cabinet file"

/-- The fault in words, and what is behind it, from the outside in. -/
def Error.causes : Error → List String
  | .cabling fault => fault.causes
  | .hardware fault => ("SLS error: " ++ fault.message) :: fault.causes
  | .mgmtSwitch fault => ["SLS error: " ++ fault.message, fault.message]
  | .location fault => ["Xname error: " ++ fault.message, fault.message]
  | fault => [fault.message]

/-- A record of a component. -/
def record (component : Xname.Component) (hardwareClass : Hardware.Class)
    (properties : Option Hardware.Properties) : Except Error Hardware.Record :=
  (Hardware.Record.create component.toXname hardwareClass properties).mapError .hardware

/-- The records of things one after another, each made with the numbers that those before it have
left, up to the first one whose records cannot be made. -/
def recordsOfEach {α : Type}
    (recordsOf : NidSequence → α → Except Error (List Hardware.Record) × NidSequence)
    (nids : NidSequence) : List α → Except Error (List Hardware.Record) × NidSequence
  | [] => (.ok [], nids)
  | a :: rest =>
    match recordsOf nids a with
    | (.error fault, nids) => (.error fault, nids)
    | (.ok records, nids) =>
      match recordsOfEach recordsOf nids rest with
      | (.error fault, nids) => (.error fault, nids)
      | (.ok more, nids) => (.ok (records ++ more), nids)

end Synthesis

end SitePlan
