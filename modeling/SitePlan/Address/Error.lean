import SitePlan.Address.Cidr

/-!
# Faults of the address plan
-/

namespace SitePlan

/-- Why a subnet could not be carved or an address not be reserved. -/
inductive AddressError
  /-- The network has no free block of the wanted size. -/
  | noFreeBlock (network : String) (cidr : Cidr) (bits : Nat) (subnet : String)
  /-- The wanted block is larger than the network, or no block has its size. -/
  | sizeOutOfRange (network : String) (cidr : Cidr) (bits : Nat)
  /-- The wanted block does not lie in the network. -/
  | outOfRange (cidr : Cidr) (network : String) (networkCidr : Cidr)
  /-- The wanted block has addresses of a subnet that is there already. -/
  | overlap (cidr : Cidr) (existing : String) (existingCidr : Cidr)
  /-- The network has a subnet of this name. -/
  | duplicateSubnet (network subnet : String)
  /-- No more subnets are carved from the network. -/
  | isSealed (network : String)
  | subnetNotFound (network subnet : String)
  | reservationNotFound (subnet name : String)
  /-- Every address of the subnet is taken. -/
  | exhausted (subnet : String) (cidr : Cidr) (name : String)
  /-- The wanted address is taken. -/
  | addressInUse (subnet : String) (address : Ipv4) (owner : String)
  /-- The wanted address does not lie in the subnet. -/
  | addressOutOfRange (subnet : String) (address : Ipv4) (cidr : Cidr)
  /-- There are more cabinets than VLANs. -/
  | vlanRangeExhausted (network : String) (first last : UInt16) (subnet : String)
  /-- The reservations reach up to the subnet's end. -/
  | noDhcpRange (subnet : String)
  deriving DecidableEq

/-- The fault in words. -/
def AddressError.message : AddressError → String
  | .noFreeBlock network cidr bits subnet =>
    s!"No free /{bits} block left in {network} ({cidr.render}) for subnet {subnet}"
  | .sizeOutOfRange network cidr bits =>
    s!"Cannot carve a /{bits} from {network} ({cidr.render})"
  | .outOfRange cidr network networkCidr =>
    s!"Subnet {cidr.render} is not within network {network} ({networkCidr.render})"
  | .overlap cidr existing existingCidr =>
    s!"Subnet {cidr.render} overlaps existing subnet {existing} ({existingCidr.render})"
  | .duplicateSubnet network subnet =>
    s!"Network {network} already has a subnet named {subnet}"
  | .isSealed network => s!"Network {network} is sealed by the supernet hack"
  | .subnetNotFound network subnet => s!"Subnet {subnet} not found in network {network}"
  | .reservationNotFound subnet name => s!"Reservation {name} not found in subnet {subnet}"
  | .exhausted subnet cidr name =>
    s!"No free address left in subnet {subnet} ({cidr.render}) for {name}"
  | .addressInUse subnet address owner =>
    s!"Address {address.render} in subnet {subnet} is already reserved by {owner}"
  | .addressOutOfRange subnet address cidr =>
    s!"Address {address.render} is not within subnet {subnet} ({cidr.render})"
  | .vlanRangeExhausted network first last subnet =>
    s!"Network {network} VLAN range {first.toNat}-{last.toNat} has no VLAN left for {subnet}"
  | .noDhcpRange subnet => s!"Subnet {subnet} has no room left for a DHCP range"

end SitePlan
