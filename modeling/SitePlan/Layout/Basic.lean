import SitePlan.Network.Basic
import SitePlan.Subnet.Groups

/-!
# Network layouts

A layout says how one network is divided: which subnets an installation needs there and
who gets addresses in them, whether one subnet fills the network, and which cabinets get
a subnet each. Parts are carved in a fixed order, and the network is sealed last.
-/

namespace SitePlan

namespace Layout

/-- An address with a fixed last octet, under a name. -/
structure Pin where
  name : String
  comment : String
  octet : UInt8
  deriving DecidableEq

/-- A subnet that fills a network as far as possible. -/
structure BaseSubnet where
  name : String
  fullName : String := ""
  /-- The size that the subnet should have at most. -/
  bits : Nat
  poolName : Option String := none
  deriving DecidableEq

/-- One subnet for every accepted cabinet. -/
structure CabinetSubdivision where
  /-- The size of the subnets. -/
  bits : Nat
  accepts : Cabinet.Filter
  overrides : Option Network.Overrides

/-- What a site has that networks are divided for. -/
structure Inputs where
  cabinets : List Cabinet.Group := []
  switches : List Switch := []
  nodes : List ManagementNode := []

end Layout

/-- How one network is divided. -/
structure Layout where
  /-- The network before anything is carved. -/
  template : Network
  /-- The size of the subnet in which machines start, if there is one. -/
  bootstrapBits : Option Nat := none
  /-- Addresses fixed in that subnet. -/
  pins : List Layout.Pin := []
  /-- Management nodes get addresses in that subnet. -/
  reservesNodes : Bool := false
  /-- The size of the subnet for switches, if there is one. -/
  hardwareBits : Option Nat := none
  /-- How many addresses to keep there for switches to come. -/
  spareSwitches : Nat := 0
  /-- The size of the subnet for user access instances, if there is one. -/
  uaiBits : Option Nat := none
  /-- The network has the pools for customer access. -/
  hasPools : Bool := false
  baseSubnet : Option Layout.BaseSubnet := none
  cabinetSubdivision : Option Layout.CabinetSubdivision := none
  /-- Subnets take over the network's mask and gateway, and the network is sealed. -/
  supernet : Bool := false

namespace Layout

/-- Services that have addresses among the user access instances, with comments. -/
def uaiServices : List (String × String) :=
  [("uai_nmn_blackhole", "Blackhole route for UAIs"), ("slurmctld_service", "Slurm controller"),
    ("slurmdbd_service", "Slurm database"), ("pbs_service", "PBS server"),
    ("pbs_comm_service", "PBS comm")]

/-- The ASCII capitals that begin words. The flag tells that a word may begin here. -/
def initials (atStart : Bool) : List Char → List Char
  | [] => []
  | c :: rest =>
    if Text.isBlank c then initials true rest
    else if atStart && c.isUpper then c :: initials false rest
    else initials false rest

/-- The short form of a network's full name: the capitals that begin its words. -/
def shortName (fullName : String) : String := String.ofList (initials true fullName.toList)

/-- Fixes addresses in a subnet. -/
def pinAll (s : Subnet) : List Pin → Except AddressError Subnet
  | [] => .ok s
  | p :: rest =>
    match s.pin p.name p.comment p.octet with
    | .error fault => .error fault
    | .ok (_, s) => pinAll s rest

/-- The subnet of a run that must not stop half-way. -/
def complete : Except AddressError Unit × Subnet → Except AddressError Subnet
  | (.ok (), s) => .ok s
  | (.error fault, _) => .error fault

/-- The VLAN of the subnets that are not for cabinets. -/
def vlan (l : Layout) : UInt16 := l.template.vlanRange.first

/-- The full name of the network. -/
def networkName (l : Layout) : String := l.template.fullName

/-- Reserves addresses for the management nodes, where the layout wants it. -/
def addressNodes (l : Layout) (inputs : Inputs) (network : String) (s : Subnet) :
    Except AddressError Subnet :=
  if l.reservesNodes then complete (s.reserveNodes network inputs.nodes) else .ok s

/-- Carves the subnet in which machines start: fixed addresses, management nodes, and the
rest set aside. -/
def addBootstrap (l : Layout) (inputs : Inputs) (n : Network) :
    Except AddressError Network := do
  match l.bootstrapBits with
  | none => return n
  | some bits =>
    let s ← n.carve bits "bootstrap_dhcp" l.vlan
    let s ← pinAll { s with fullName := l.networkName ++ " Bootstrap DHCP Subnet" } l.pins
    let s ← l.addressNodes inputs n.name s
    let s ← s.updateDhcpRange
    return n.push s

/-- Carves the subnet for switches. -/
def addHardware (l : Layout) (inputs : Inputs) (n : Network) :
    Except AddressError Network := do
  match l.hardwareBits with
  | none => return n
  | some bits =>
    let s ← n.carve bits "network_hardware" l.vlan
    let s := { s with fullName := l.networkName ++ " Management Network Infrastructure" }
    let s ← complete (s.reserveSwitches (.ofSwitches inputs.switches) l.spareSwitches)
    return n.push s

/-- Carves the subnet for user access instances. -/
def addUai (l : Layout) (n : Network) : Except AddressError Network := do
  match l.uaiBits with
  | none => return n
  | some bits =>
    let s ← n.carve bits "uai_macvlan" l.vlan
    let s := { s with fullName := shortName l.networkName ++ " UAIs" }
    let s ← complete (s.reserveAll uaiServices)
    let s ← s.updateDhcpRange
    return n.push s

/-- Carves the pools for customer access. -/
def addPools (l : Layout) (n : Network) : Except AddressError Network := do
  if l.hasPools then
    let fixed ← n.carve 28 "can_metallb_static_pool" l.vlan
    let n := n.push { fixed with
      fullName := "CAN Static Pool MetalLB"
      poolName := some "customer-access-static" }
    let dynamic ← n.carve 27 "can_metallb_address_pool" l.vlan
    return n.push { dynamic with
      fullName := "CAN Dynamic MetalLB"
      poolName := some "customer-access" }
  else return n

/-- Carves the subnet that fills the network. -/
def addBase (l : Layout) (n : Network) : Except AddressError Network := do
  match l.baseSubnet with
  | none => return n
  | some base =>
    let s ← n.carveBiggest base.bits base.name l.vlan
    return n.push { s with fullName := base.fullName, poolName := base.poolName }

/-- Carves the subnets of cabinets. -/
def addCabinets (l : Layout) (inputs : Inputs) (n : Network) : Except AddressError Network :=
  match l.cabinetSubdivision with
  | none => .ok n
  | some division =>
    match n.addCabinetSubnets inputs.cabinets division.bits division.accepts
        division.overrides with
    | (.ok (), n) => .ok n
    | (.error fault, _) => .error fault

/-- Carves everything that the layout asks for. -/
def carveAll (l : Layout) (inputs : Inputs) : Except AddressError Network := do
  let n ← l.addBootstrap inputs l.template
  let n ← l.addHardware inputs n
  let n ← l.addUai n
  let n ← l.addPools n
  let n ← l.addBase n
  l.addCabinets inputs n

/-- The network that the layout makes. -/
def build (l : Layout) (inputs : Inputs) : Except AddressError Network := do
  let n ← l.carveAll inputs
  return if l.supernet then n.applySupernet else n

/-- Builds networks and files them by name with those that are there. -/
def buildInto (inputs : Inputs) (networks : SortedMap Network) :
    List Layout → Except AddressError (SortedMap Network)
  | [] => .ok networks
  | l :: rest =>
    match l.build inputs with
    | .error fault => .error fault
    | .ok n => buildInto inputs (networks.insert n.name n) rest

/-- The networks of all layouts by name. -/
def buildAll (layouts : List Layout) (inputs : Inputs) :
    Except AddressError (SortedMap Network) :=
  buildInto inputs .empty layouts

end Layout

end SitePlan
