import SitePlan.Address.Error
import SitePlan.ManagementNode
import SitePlan.Text.LowerCase

/-!
# Subnets and reservations

A subnet hands out its addresses under names. The next free address is the lowest one
between the subnet's address and its last address that is neither the gateway nor
reserved. A name that has an address keeps it, so reserving can be repeated. What is left
above the reservations can be set aside for addresses on request.
-/

namespace SitePlan

/-- A named address. -/
structure Reservation where
  name : String
  address : Ipv4
  comment : String := ""
  aliases : List String := []
  deriving DecidableEq

/-- A block of a network with the addresses handed out in it. -/
structure Subnet where
  name : String
  fullName : String := ""
  cidr : Cidr
  gateway : Ipv4
  vlan : UInt16
  /-- Reservations in the order in which they were made. -/
  reservations : List Reservation := []
  /-- The first address that is given out on request. -/
  dhcpStart : Option Ipv4 := none
  /-- The last address that is given out on request. -/
  dhcpEnd : Option Ipv4 := none
  /-- The name of the pool that the subnet is for a load balancer. -/
  poolName : Option String := none
  deriving DecidableEq

namespace Subnet

/-- A subnet without reservations. The gateway follows the block's first address. -/
def create (name : String) (cidr : Cidr) (vlan : UInt16) : Subnet where
  name := name
  cidr := cidr
  gateway := .clamp (cidr.first + 1)
  vlan := vlan

/-- The reserved addresses, in the order of the reservations. -/
def reservedAddresses (s : Subnet) : List Ipv4 := s.reservations.map Reservation.address

/-- The reservation of a name. -/
def find? (s : Subnet) (name : String) : Option Reservation :=
  s.reservations.find? fun r => r.name = name

/-- The reservation of a name, which must be there. -/
def lookup (s : Subnet) (name : String) : Except AddressError Reservation :=
  match s.find? name with
  | some r => .ok r
  | none => .error (.reservationNotFound s.name name)

/-- The reservations by name. -/
def byName (s : Subnet) : SortedMap Reservation :=
  .ofList (s.reservations.map fun r => (r.name, r))

/-- The reservation that holds an address. -/
def owner? (s : Subnet) (address : Ipv4) : Option Reservation :=
  s.reservations.find? fun r => r.address = address

/-- Adds a reservation after the others. -/
def push (s : Subnet) (r : Reservation) : Subnet :=
  { s with reservations := s.reservations ++ [r] }

/-- The lowest number from `first` to `last` that is not taken. -/
def lowestFree (taken : Nat → Bool) (first last : Nat) : Option Nat :=
  if first ≤ last then
    if taken first then lowestFree taken (first + 1) last else some first
  else none
termination_by last + 1 - first

/-- An address that is not handed out again: the gateway's or a reserved one. -/
def isTaken (s : Subnet) (address : Nat) : Bool :=
  address = s.gateway.value || s.reservations.any fun r => r.address.value = address

/-- The lowest address that can be handed out. -/
def nextFree? (s : Subnet) : Option Ipv4 :=
  (lowestFree s.isTaken (s.cidr.address.value + 1) (s.cidr.last - 1)).map .clamp

/-- Reserves the next free address for a name. A name that has an address keeps it. -/
def reserve (s : Subnet) (name comment : String) :
    Except AddressError (Reservation × Subnet) :=
  match s.find? name with
  | some r => .ok (r, s)
  | none =>
    match s.nextFree? with
    | some address =>
      let r : Reservation := { name, address, comment }
      .ok (r, s.push r)
    | none => .error (.exhausted s.name s.cidr name)

/-- Reserves a chosen address for a name, unless it is taken. -/
def reserveFree (s : Subnet) (name : String) (address : Ipv4) (comment : String) :
    Except AddressError (Reservation × Subnet) :=
  match s.owner? address with
  | some owner => .error (.addressInUse s.name address owner.name)
  | none =>
    let r : Reservation := { name, address, comment }
    .ok (r, s.push r)

/-- The address with the block's first three octets and this last one. -/
def pinnedAddress (s : Subnet) (octet : UInt8) : Ipv4 :=
  .clamp (s.cidr.first / 256 * 256 + octet.toNat)

/-- Reserves the address with a chosen last octet. A name that has an address keeps it. -/
def pin (s : Subnet) (name comment : String) (octet : UInt8) :
    Except AddressError (Reservation × Subnet) :=
  match s.find? name with
  | some r => .ok (r, s)
  | none => s.reserveFree name (s.pinnedAddress octet) comment

/-- Reserves a chosen address of the subnet. -/
def reserveAt (s : Subnet) (name : String) (address : Ipv4) (comment : String) :
    Except AddressError (Reservation × Subnet) :=
  if s.cidr.contains address then s.reserveFree name address comment
  else .error (.addressOutOfRange s.name address s.cidr)

/-- Reserves addresses for names with comments, up to the first one that finds none. -/
def reserveAll (s : Subnet) : List (String × String) → Except AddressError Unit × Subnet
  | [] => (.ok (), s)
  | (name, comment) :: rest =>
    match s.reserve name comment with
    | .error fault => (.error fault, s)
    | .ok (_, s) => reserveAll s rest

/-- The subnet with the reservation of a name changed. -/
def modifyReservation (s : Subnet) (name : String) (change : Reservation → Reservation) :
    Subnet :=
  { s with reservations := go s.reservations }
where
  /-- Changes the first reservation of the name. -/
  go : List Reservation → List Reservation
    | [] => []
    | r :: rest => if r.name = name then change r :: rest else r :: go rest

/-- The highest address in use: that of the gateway or of a reservation in the block. -/
def highestTaken (s : Subnet) : Nat :=
  (s.reservations.filter fun r => s.cidr.contains r.address).foldl
    (fun highest r => max highest r.address.value) s.gateway.value

/-- Sets aside the addresses above those in use, up to the one before the last. -/
def updateDhcpRange (s : Subnet) : Except AddressError Subnet :=
  let start := Ipv4.clamp (s.highestTaken + 1)
  let stop := Ipv4.clamp (s.cidr.last - 1)
  if start.value ≤ stop.value then
    .ok { s with dhcpStart := some start, dhcpEnd := some stop }
  else .error (.noDhcpRange s.name)

/-- The subnet with the mask and the gateway of the block around it, under the same
address. -/
def widen (s : Subnet) (supernet : Cidr) : Subnet :=
  { s with
    cidr := { s.cidr with bits := supernet.bits, bits_le := supernet.bits_le }
    gateway := .clamp (supernet.first + 1) }

/-- A free number is in range and not taken. -/
theorem of_lowestFree {taken : Nat → Bool} {first last n : Nat}
    (h : lowestFree taken first last = some n) :
    first ≤ n ∧ n ≤ last ∧ taken n = false := by
  fun_induction lowestFree taken first last with
  | case1 first _ _ ih =>
    obtain ⟨hle, hlast, hfree⟩ := ih h
    exact ⟨by omega, hlast, hfree⟩
  | case2 first hle htaken =>
    cases h
    exact ⟨Nat.le_refl _, hle, by simpa using htaken⟩
  | case3 => cases h

end Subnet

end SitePlan
