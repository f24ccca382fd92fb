import SitePlan.Subnet.Basic
import SitePlan.Switch

/-!
# Reserving for groups of devices

Management switches get one address each, named by role and number, and further numbers
can be kept for switches to come. Management nodes get one address each under their host
name, which they share with their names in the network.
-/

namespace SitePlan.Subnet

/-- The locations of switches by role. -/
structure SwitchXnames where
  spine : List String := []
  leaf : List String := []
  leafBmc : List String := []
  aggregation : List String := []
  cdu : List String := []

/-- The locations of a site's switches by role. -/
def SwitchXnames.ofSwitches (switches : List Switch) : SwitchXnames where
  spine := Switch.xnamesOfRole .spine switches
  leaf := Switch.xnamesOfRole .leaf switches
  leafBmc := Switch.xnamesOfRole .leafBmc switches
  aggregation := Switch.xnamesOfRole .aggregation switches
  cdu := Switch.xnamesOfRole .cdu switches

/-- The name of the address that is kept for a device with this number in its group. -/
def deviceName (stem : String) (number : Nat) : String := s!"{stem}-{Text.padText 3 number}"

/-- Names that start with a stem and are counted from one, each with a comment. -/
def numberedNames (stem : String) (comments : List String) : List (String × String) :=
  comments.mapIdx fun i comment => (deviceName stem (i + 1), comment)

/-- The groups of switches in the order in which they get addresses, each with the stem of its
names. -/
def SwitchXnames.groups (xs : SwitchXnames) : List (String × List String) := [
  ("sw-spine", xs.spine),
  ("sw-leaf", xs.leaf),
  ("sw-leaf-bmc", xs.leafBmc),
  ("sw-agg", xs.aggregation),
  ("sw-cdu", xs.cdu)]

/-- The reservations that switches ask for. -/
def SwitchXnames.requests (xs : SwitchXnames) : List (String × String) :=
  xs.groups.flatMap fun (stem, xnames) => numberedNames stem xnames

/-- The stem of the names that are kept for switches to come. -/
def spareStem : String := "sw-spare"

/-- Reserves addresses for that many switches to come, up to the first one that finds
none. The first of them gets the given number. -/
def reserveSpares (s : Subnet) (number : Nat) : Nat → Except AddressError Unit × Subnet
  | 0 => (.ok (), s)
  | count + 1 =>
    match s.reserve (deviceName spareStem number)
        "reserved for a future management switch" with
    | .error fault => (.error fault, s)
    | .ok (_, s) => reserveSpares s (number + 1) count

/-- Reserves an address for every switch and for switches to come, up to the first one
that finds none. -/
def reserveSwitches (s : Subnet) (xs : SwitchXnames) (spares : Nat) :
    Except AddressError Unit × Subnet :=
  match s.reserveAll xs.requests with
  | (.ok (), s) => s.reserveSpares 1 spares
  | failed => failed

/-- Adds a name to a list of names, unless it is there. -/
def addName (names : List String) (name : String) : List String :=
  if names.contains name then names else names ++ [name]

/-- The names of a management node in the network with this name in lower case. -/
def nodeAliases (network : String) (hostName : String) : List String :=
  (hostName ++ "-" ++ network) ::
    (if network = "nmn" then [hostName ++ ".local"] else [])

/-- Reserves addresses for management nodes in a network whose name is given in lower
case. -/
def reserveNodesAs (network : String) (s : Subnet) :
    List ManagementNode → Except AddressError Unit × Subnet
  | [] => (.ok (), s)
  | node :: rest =>
    match s.reserve node.hostName node.xname with
    | .error fault => (.error fault, s)
    | .ok (_, s) =>
      let s := s.modifyReservation node.hostName fun r =>
        { r with aliases := (nodeAliases network node.hostName).foldl addName r.aliases }
      reserveNodesAs network s rest

/-- Reserves an address for every management node under its host name, up to the first
one that finds none, and notes its names in the network. -/
def reserveNodes (s : Subnet) (network : String) (nodes : List ManagementNode) :
    Except AddressError Unit × Subnet :=
  reserveNodesAs (Text.lowerText network) s nodes

end SitePlan.Subnet
