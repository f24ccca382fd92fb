import SitePlan.Layout.Standard
import SitePlan.Plan.Basic
import SitePlan.Site.Basic
import SitePlan.Synthesis.Cabinets
import SitePlan.Synthesis.Inventory

/-!
# The plan for a site

The hardware of a site comes first, since the networks keep addresses for the management
nodes among it. Cabinets are recorded last, with the subnets that they were given.
-/

namespace SitePlan.Plan

/-- What is chosen for a plan. -/
structure Options where
  /-- The first number of a node in a liquid-cooled cabinet. -/
  firstLiquidCooledNid : UInt64 := Synthesis.firstLiquidCooledNid
  layout : Layout.Options := {}
  deriving DecidableEq

/-- Why a site could not be planned. -/
inductive GenerationError
  /-- The hardware is at fault. -/
  | inventory (fault : Synthesis.Error)
  /-- The networks have no room. -/
  | networks (fault : AddressError)
  /-- A cabinet cannot be recorded. -/
  | cabinets (fault : Synthesis.Error)
  /-- A cabinet's location has a record already. -/
  | collision (fault : Synthesis.Error)
  deriving DecidableEq

namespace GenerationError

/-- What was tried. -/
def context : GenerationError → String
  | inventory _ => "Failed to build hardware inventory"
  | networks _ => "Failed to allocate networks"
  | cabinets _ => "Failed to build cabinet records"
  | collision _ => "Cabinet records collide with existing hardware"

/-- The fault in words, and what is behind it, from the outside in. -/
def causes : GenerationError → List String
  | inventory fault | cabinets fault | collision fault => fault.causes
  | networks fault => [fault.message]

end GenerationError

/-- What the hardware of a site is made from. -/
def synthesisInputs (site : Site) : Synthesis.Inputs :=
  ⟨site.cabinets, site.switches, site.applicationNodes⟩

/-- The inventory of a site without its cabinets. -/
def hardwareOf (site : Site) (options : Options) : Except Synthesis.Error Hardware.Inventory :=
  (Synthesis.inventory (synthesisInputs site) (.startingAt options.firstLiquidCooledNid)
    site.rows).1

/-- The networks of a site with this hardware. -/
def networksOf (site : Site) (options : Options) (hardware : Hardware.Inventory) :
    Except AddressError (SortedMap Network) :=
  Layout.buildAll (Layout.standard options.layout)
    ⟨site.cabinets, site.switches, ManagementNode.ofInventory hardware⟩

/-- The plan for a site. -/
def generate (site : Site) (options : Options) : Except GenerationError Plan := do
  let hardware ← (hardwareOf site options).mapError .inventory
  let networks ← (networksOf site options hardware).mapError .networks
  let cabinets ← (Synthesis.cabinetHardware site.cabinets networks).mapError .cabinets
  match (⟨hardware, networks⟩ : Plan).addHardware cabinets with
  | (.ok (), plan) => return plan
  | (.error fault, _) => throw (.collision (.hardware fault))

end SitePlan.Plan
