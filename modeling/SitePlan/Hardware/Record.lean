import SitePlan.Hardware.Class
import SitePlan.Hardware.Tag
import SitePlan.SortedMap
import SitePlan.Xname.Grammar

/-!
# Hardware records

A record describes one device under its location name: where it lies, what it is, how it
is cooled, and properties that depend on the kind of device.
-/

namespace SitePlan.Hardware

/-- What a node is for. -/
inductive Role
  | management
  | compute
  | application
  | system
  deriving DecidableEq

/-- The name of a role in records. -/
def Role.name : Role → String
  | management => "Management"
  | compute => "Compute"
  | application => "Application"
  | system => "System"

/-- The role of this name. -/
def Role.ofName? (s : String) : Option Role :=
  [management, compute, application, system].find? fun role => role.name = s

/-- Names lead back to their role. -/
theorem Role.ofName?_name (role : Role) : ofName? role.name = some role := by
  cases role <;> rfl

/-- Properties of a node. -/
structure NodeProperties where
  /-- The node's number in the system. -/
  nid : Option UInt64
  /-- What the node is for. -/
  role : Role
  /-- What it is for within its role. -/
  subRole : Option String
  /-- Host names, the main one first. -/
  aliases : List String
  deriving DecidableEq

/-- Properties of a connector of a management switch. -/
structure ConnectorProperties where
  /-- What the connector's cable leads to. -/
  nodeNics : List String
  /-- The vendor's name of the connector. -/
  vendorName : String
  deriving DecidableEq

/-- How a switch is asked for the addresses it has seen. Passwords are references to a
vault. -/
structure SnmpCredentials where
  username : String
  authPassword : String
  authProtocol : String
  privPassword : String
  privProtocol : String
  deriving DecidableEq

/-- Properties of a management switch. -/
structure SwitchProperties where
  /-- The address of the switch's management interface. -/
  ip4Address : Option String
  brand : String
  model : Option String
  snmp : Option SnmpCredentials
  /-- Host names. -/
  aliases : List String
  deriving DecidableEq

/-- Properties of a router controller. -/
structure RouterBmcProperties where
  username : String
  password : String
  deriving DecidableEq

/-- A network as the hardware of one cabinet sees it. -/
structure CabinetNetwork where
  cidr : String
  gateway : String
  vlan : UInt16
  deriving DecidableEq

/-- Properties of a cabinet. -/
structure CabinetProperties where
  /-- Networks by family and name. -/
  networks : SortedMap (SortedMap CabinetNetwork)
  model : Option String
  deriving DecidableEq

/-- The properties that go with a kind of device. -/
inductive Properties
  | node (properties : NodeProperties)
  | connector (properties : ConnectorProperties)
  | mgmtSwitch (properties : SwitchProperties)
  | routerBmc (properties : RouterBmcProperties)
  | cabinet (properties : CabinetProperties)
  deriving DecidableEq

/-- A hardware record. -/
structure Record where
  /-- The location name of the enclosing component. -/
  parent : String
  /-- The location name. -/
  xname : String
  /-- The tag. -/
  tag : Tag
  /-- How the device is packaged and cooled. -/
  hardwareClass : Class
  /-- The kind of component that the device is recorded as; a record that was read may
  claim to be of no kind. -/
  kind : Option Xname.Kind
  /-- Properties, where there are any. -/
  properties : Option Properties
  deriving DecidableEq

/-- What makes a hardware record unusable. -/
inductive Error
  /-- Its location name is at fault. -/
  | xname (fault : Xname.Error)
  /-- There is a record of this location already. -/
  | duplicateXname (xname : String)
  /-- This kind of component has no records. -/
  | unsupported (xname : String) (kind : Option Xname.Kind)
  deriving DecidableEq

/-- A kind of component in messages. -/
def kindName : Option Xname.Kind → String
  | some kind => kind.name
  | none => "INVALID"

/-- The fault in words. -/
def Error.message : Error → String
  | .xname fault => "Xname error: " ++ fault.message
  | .duplicateXname location => s!"Duplicate hardware xname: {location}"
  | .unsupported location kind =>
    "SLS does not track " ++ kindName kind ++ s!" hardware: {location}"

/-- The fault in words, and what is behind it, from the outside in. -/
def Error.causes : Error → List String
  | .xname fault => ["Xname error: " ++ fault.message, fault.message]
  | fault => [fault.message]

namespace Record

/-- A record of a device recorded as the given kind. The parent comes from the location
name, which may be that of another kind: the controller of a rack's enclosure has the
location name of a node controller. -/
def createAs (xname : String) (kind : Option Xname.Kind) (hardwareClass : Class)
    (properties : Option Properties) : Except Error Record :=
  match Xname.parent xname with
  | .error fault => .error (.xname fault)
  | .ok parent =>
    match kind.bind Tag.ofKind? with
    | none => .error (.unsupported xname kind)
    | some tag => .ok ⟨parent, xname, tag, hardwareClass, kind, properties⟩

/-- A record of a device of the kind that its location name denotes. -/
def create (xname : String) (hardwareClass : Class) (properties : Option Properties) :
    Except Error Record :=
  createAs xname (Xname.kind? xname) hardwareClass properties

/-- The properties of a node's record. -/
def node? (r : Record) : Option NodeProperties :=
  match r.properties with
  | some (.node p) => some p
  | _ => none

end Record

end SitePlan.Hardware
