import SitePlan.Network.Basic
import SitePlan.Synthesis.Basic

/-!
# Records of cabinets

The record of a cabinet lists the subnets that its hardware lives in, so cabinets are
recorded when the networks are there.
-/

namespace SitePlan.Synthesis

open Hardware

/-- The family under which a cabinet's subnets are listed. -/
def computeFamily : String := "cn"

/-- The networks that give cabinets of a class their subnets, with the names under which
these are listed. -/
def cabinetNetworkNames : Hardware.Class → List (String × String)
  | .river => [("HMN", "HMN_RVR"), ("NMN", "NMN_RVR")]
  | .hill | .mountain => [("HMN", "HMN_MTN"), ("NMN", "NMN_MTN")]

/-- What a cabinet's record says of a subnet. -/
def cabinetNetwork (s : Subnet) : CabinetNetwork := ⟨s.cidr.render, s.gateway.render, s.vlan⟩

/-- The cabinet's subnet in a network, where there is one. -/
def cabinetSubnet? (networks : SortedMap Network) (cabinet : Cabinet.Detail)
    (network : String) : Option Subnet := do
  ((← networks.get? network).lookup (Network.cabinetSubnetName cabinet)).toOption

/-- The subnets of a cabinet by the names under which they are listed. -/
def cabinetSubnets (networks : SortedMap Network) (hardwareClass : Hardware.Class)
    (cabinet : Cabinet.Detail) : SortedMap CabinetNetwork :=
  .ofList ((cabinetNetworkNames hardwareClass).filterMap fun (name, network) =>
    (cabinetSubnet? networks cabinet network).map fun s => (name, cabinetNetwork s))

/-- What the record of a cabinet says. -/
def cabinetProperties (networks : SortedMap Network) (hardwareClass : Hardware.Class)
    (cabinet : Cabinet.Detail) : CabinetProperties :=
  let subnets := cabinetSubnets networks hardwareClass cabinet
  { networks := if subnets.entries.isEmpty then .empty
      else SortedMap.empty.insert computeFamily subnets
    model := cabinet.model }

/-- The record of a cabinet of a class. -/
def cabinetRecord (networks : SortedMap Network) (hardwareClass : Hardware.Class)
    (cabinet : Cabinet.Detail) : Except Error Record :=
  record (.cabinet cabinet.id) hardwareClass
    (some (.cabinet (cabinetProperties networks hardwareClass cabinet)))

/-- The records of the cabinets of all groups whose class is known. -/
def cabinetHardware (cabinets : List Cabinet.Group) (networks : SortedMap Network) :
    Except Error (List Record) :=
  let classified := cabinets.flatMap fun group =>
    match group.hardwareClass? with
    | none => []
    | some hardwareClass => group.details.map (hardwareClass, ·)
  classified.mapM fun (hardwareClass, cabinet) => cabinetRecord networks hardwareClass cabinet

end SitePlan.Synthesis
