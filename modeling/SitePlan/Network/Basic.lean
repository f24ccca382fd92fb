import SitePlan.Cabinet.Filter
import SitePlan.Sorting
import SitePlan.Subnet.Basic

/-!
# Networks and their subnets

A network is a block from which subnets are carved. A new subnet gets the lowest block
of its size, aligned to that size, that has no address of another subnet. Cabinets can
be given one subnet each, in the order of their IDs, around the blocks that some of them
must get. A sealed network gives no more subnets.
-/

namespace SitePlan

/-- A range of VLANs, both ends included. -/
structure VlanRange where
  first : UInt16
  last : UInt16
  deriving DecidableEq

namespace VlanRange

/-- The range of one VLAN. -/
def single (vlan : UInt16) : VlanRange := ⟨vlan, vlan⟩

/-- The VLAN at this place of the range, counted from zero. -/
def nth? (r : VlanRange) (n : Nat) : Option UInt16 :=
  if r.first.toNat + n ≤ r.last.toNat then some (r.first + n.toUInt16) else none

end VlanRange

namespace Network

/-- The technology of a network. -/
inductive Fabric
  | ethernet
  | slingshot10
  deriving DecidableEq

/-- The name of a technology. -/
def Fabric.name : Fabric → String
  | ethernet => "ethernet"
  | slingshot10 => "slingshot10"

/-- The technology of this name. -/
def Fabric.ofName? (s : String) : Option Fabric :=
  [ethernet, slingshot10].find? fun fabric => fabric.name = s

/-- Names lead back to their technology. -/
theorem Fabric.ofName?_name (fabric : Fabric) : ofName? fabric.name = some fabric := by
  cases fabric <;> rfl

/-- Which of a cabinet's wishes count in a network. -/
inductive Overrides
  | nmn
  | hmn
  deriving DecidableEq

/-- The block that a cabinet must get. -/
def Overrides.subnet? : Overrides → Cabinet.Detail → Option Cidr
  | nmn, d => d.nmnSubnet
  | hmn, d => d.hmnSubnet

/-- The VLAN that a cabinet must get. -/
def Overrides.vlan? : Overrides → Cabinet.Detail → Option UInt16
  | nmn, d => d.nmnVlan
  | hmn, d => d.hmnVlan

end Network

/-- A network. -/
structure Network where
  name : String
  fullName : String := ""
  cidr : Cidr
  vlanRange : VlanRange
  mtu : UInt16
  fabric : Network.Fabric
  comment : String := ""
  /-- Subnets in the order in which they were carved. -/
  subnets : List Subnet := []
  /-- No more subnets are carved. -/
  isSealed : Bool := false
  deriving DecidableEq

/-- A stretch of addresses by number, both ends included. -/
structure Stretch where
  first : Nat
  last : Nat
  deriving DecidableEq

/-- The addresses of a block. -/
def Cidr.stretch (c : Cidr) : Stretch := ⟨c.first, c.last⟩

namespace Network

/-- A network from which nothing is carved yet. -/
def create (name fullName : String) (cidr : Cidr) (vlanRange : VlanRange) (mtu : UInt16)
    (fabric : Fabric) : Network where
  name := name
  fullName := fullName
  cidr := cidr
  vlanRange := vlanRange
  mtu := mtu
  fabric := fabric

/-- The network as messages show it. -/
def display (n : Network) : String := s!"{n.name} ({n.cidr.render})"

/-- The names of the subnets. -/
def subnetNames (n : Network) : List String := n.subnets.map Subnet.name

/-- The subnet of a name, which must be there. -/
def lookup (n : Network) (name : String) : Except AddressError Subnet :=
  match n.subnets.find? fun s => s.name = name with
  | some s => .ok s
  | none => .error (.subnetNotFound n.name name)

/-- The network with the first subnet of a name replaced. -/
def replaceSubnet (n : Network) (name : String) (subnet : Subnet) : Network :=
  { n with subnets := go n.subnets }
where
  /-- Replaces the first subnet of the name. -/
  go : List Subnet → List Subnet
    | [] => []
    | s :: rest => if s.name = name then subnet :: rest else s :: go rest

/-- Adds a subnet after the others. -/
def push (n : Network) (subnet : Subnet) : Network :=
  { n with subnets := n.subnets ++ [subnet] }

/-- A subnet of this name may be carved. -/
def checkCanCarve (n : Network) (name : String) : Except AddressError Unit :=
  if n.isSealed then .error (.isSealed n.name)
  else if n.subnets.any fun s => s.name = name then .error (.duplicateSubnet n.name name)
  else .ok ()

/-- Blocks of this size fit into the network. -/
def checkBits (n : Network) (bits : Nat) : Except AddressError Unit :=
  if bits < n.cidr.bits || 32 < bits then .error (.sizeOutOfRange n.name n.cidr bits)
  else .ok ()

/-- The first multiple of the size that is not below the number. -/
def alignUp (n size : Nat) : Nat := (n + size - 1) / size * size

/-- The first aligned place from the candidate on for a block of the size that lies before
or between stretches in use, or after the last of them. The stretches are in order. -/
def sweep (size : Nat) : Nat → List Stretch → Nat
  | candidate, [] => candidate
  | candidate, used :: rest =>
    if used.last < candidate then sweep size candidate rest
    else if candidate + size - 1 < used.first then candidate
    else sweep size (alignUp (used.last + 1) size) rest

/-- The order of stretches: by their first address, then by their last one. -/
def stretchLe (a b : Stretch) : Bool :=
  a.first < b.first || (a.first = b.first && a.last ≤ b.last)

/-- The lowest aligned block of a size that has no address of a subnet or of the further
stretches. -/
def freeBlock? (n : Network) (bits : Nat) (further : List Stretch) : Option Cidr :=
  let size := Cidr.sizeOf bits
  let used := sortBy stretchLe (n.subnets.map (fun s => s.cidr.stretch) ++ further)
  let place := sweep size (alignUp n.cidr.first size) used
  if place + size - 1 ≤ n.cidr.last then Cidr.ofNat? place bits else none

/-- A new subnet on the lowest free block of a size. -/
def carve (n : Network) (bits : Nat) (name : String) (vlan : UInt16) :
    Except AddressError Subnet := do
  n.checkCanCarve name
  n.checkBits bits
  match n.freeBlock? bits [] with
  | some cidr => return .create name cidr vlan
  | none => throw (.noFreeBlock n.name n.cidr bits name)

/-- A new subnet on a chosen block, which must lie in the network and have no address of
another subnet. -/
def carveAt (n : Network) (cidr : Cidr) (name : String) (vlan : UInt16) :
    Except AddressError Subnet := do
  n.checkCanCarve name
  let cidr := cidr.dropHost
  if cidr.first < n.cidr.first || n.cidr.last < cidr.last then
    throw (.outOfRange cidr n.name n.cidr)
  match n.subnets.find? fun s => cidr.overlaps s.cidr with
  | some existing => throw (.overlap cidr existing.name existing.cidr)
  | none => return .create name cidr vlan

/-- The size down to which the largest free block may shrink. -/
def smallestBits : Nat := 28

/-- A new subnet on the largest free block that is not larger than the wanted size. -/
def carveBiggest (n : Network) (maxBits : Nat) (name : String) (vlan : UInt16) :
    Except AddressError Subnet := do
  n.checkCanCarve name
  let first := max maxBits n.cidr.bits
  n.checkBits first
  let sizes := List.range' first (max smallestBits first + 1 - first)
  match sizes.find? fun bits => (n.freeBlock? bits []).isSome with
  | some bits => n.carve bits name vlan
  | none => throw (.noFreeBlock n.name n.cidr maxBits name)

/-- Carves a subnet and adds it. -/
def addSubnet (n : Network) (bits : Nat) (name : String) (vlan : UInt16) :
    Except AddressError (Subnet × Network) := do
  let s ← n.carve bits name vlan
  return (s, n.push s)

/-- Carves a subnet on a chosen block and adds it. -/
def addSubnetAt (n : Network) (cidr : Cidr) (name : String) (vlan : UInt16) :
    Except AddressError (Subnet × Network) := do
  let s ← n.carveAt cidr name vlan
  return (s, n.push s)

/-- Carves the largest subnet and adds it. -/
def addBiggestSubnet (n : Network) (maxBits : Nat) (name : String) (vlan : UInt16) :
    Except AddressError (Subnet × Network) := do
  let s ← n.carveBiggest maxBits name vlan
  return (s, n.push s)

/-- The name of a cabinet's subnet. -/
def cabinetSubnetName (d : Cabinet.Detail) : String := s!"cabinet_{d.id.toNat}"

/-- The VLAN of a cabinet's subnet: the one that the cabinet must get, or else the one of
its place in the order of IDs. -/
def cabinetVlan (n : Network) (overrides : Option Overrides) (place : Nat)
    (d : Cabinet.Detail) : Except AddressError UInt16 :=
  match overrides.bind (·.vlan? d) with
  | some vlan => .ok vlan
  | none =>
    match n.vlanRange.nth? place with
    | some vlan => .ok vlan
    | none => .error (.vlanRangeExhausted n.name n.vlanRange.first n.vlanRange.last
        (cabinetSubnetName d))

/-- A new subnet on the block that a cabinet must get, or else on a free block away from
the pinned stretches. -/
def carveAround (n : Network) (bits : Nat) (overrides : Option Overrides)
    (pinned : List Stretch) (d : Cabinet.Detail) (vlan : UInt16) :
    Except AddressError Subnet :=
  match overrides.bind (·.subnet? d) with
  | some cidr => n.carveAt cidr (cabinetSubnetName d) vlan
  | none => do
    n.checkCanCarve (cabinetSubnetName d)
    match n.freeBlock? bits pinned with
    | some cidr => return .create (cabinetSubnetName d) cidr vlan
    | none => throw (.noFreeBlock n.name n.cidr bits (cabinetSubnetName d))

/-- A cabinet's subnet in a network; the cabinet is the one at this place in the order of
IDs, and automatic blocks avoid the pinned stretches. -/
def carveCabinet (n : Network) (bits : Nat) (overrides : Option Overrides)
    (pinned : List Stretch) (place : Nat) (d : Cabinet.Detail) :
    Except AddressError Subnet := do
  let vlan ← n.cabinetVlan overrides place d
  let s ← n.carveAround bits overrides pinned d vlan
  return { s with fullName := s!"{n.fullName} Cabinet {d.id.toNat}" }

/-- Carves the subnets of cabinets one after another, up to the first one that cannot be
carved. The first cabinet is at the given place in the order of IDs. -/
def carveCabinets (bits : Nat) (overrides : Option Overrides) (pinned : List Stretch)
    (n : Network) (place : Nat) : List Cabinet.Detail → Except AddressError Unit × Network
  | [] => (.ok (), n)
  | d :: rest =>
    match n.carveCabinet bits overrides pinned place d with
    | .error fault => (.error fault, n)
    | .ok s => carveCabinets bits overrides pinned (n.push s) (place + 1) rest

/-- Gives every accepted cabinet a subnet, in the order of IDs. What was carved before a
fault stays. -/
def addCabinetSubnets (n : Network) (groups : List Cabinet.Group) (bits : Nat)
    (accepts : Cabinet.Filter) (overrides : Option Overrides) :
    Except AddressError Unit × Network :=
  if n.isSealed then (.error (.isSealed n.name), n)
  else
    match n.checkBits bits with
    | .error fault => (.error fault, n)
    | .ok () =>
      let selected := sortBy (fun a b => a.id ≤ b.id) (Cabinet.select accepts groups)
      let pinned := selected.filterMap fun d =>
        (overrides.bind (·.subnet? d)).map Cidr.stretch
      carveCabinets bits overrides pinned n 0 selected

/-- The subnets that take over the mask and the gateway of the network around them. -/
def supernetSubnets : List String :=
  ["bootstrap_dhcp", "network_hardware", "can_metallb_static_pool",
    "can_metallb_address_pool"]

/-- Gives the subnets of an installation the mask and the gateway of the network, and
seals the network. -/
def applySupernet (n : Network) : Network :=
  { n with
    subnets := n.subnets.map fun s =>
      if s.name ∈ supernetSubnets then s.widen n.cidr else s
    isSealed := true }

/-- A sealed network gives no subnet of any name. -/
theorem checkCanCarve_of_isSealed {n : Network} (h : n.isSealed = true) (name : String) :
    n.checkCanCarve name = .error (.isSealed n.name) := by
  simp [checkCanCarve, h]

/-- An aligned place is not below the number it was asked for. -/
theorem le_alignUp (n : Nat) {size : Nat} (h : 0 < size) : n ≤ alignUp n size := by
  have hlt := Nat.lt_div_mul_add h (a := n + size - 1)
  simp only [alignUp]
  omega

end Network

end SitePlan
