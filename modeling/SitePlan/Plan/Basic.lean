import SitePlan.Hardware.Inventory
import SitePlan.Network.Basic
import SitePlan.Xname.Order

/-!
# The plan of a site

The plan is what the layout service of a new system is loaded with: the hardware records
by location and the networks by name.
-/

namespace SitePlan

/-- Hardware records and networks of a site. -/
structure Plan where
  hardware : Hardware.Inventory := .empty
  networks : SortedMap Network := .empty
  deriving DecidableEq

namespace Plan

/-- Files records up to the first one whose location has a record already. -/
def addHardware (plan : Plan) (records : List Hardware.Record) :
    Except Hardware.Error Unit × Plan :=
  let (result, hardware) := plan.hardware.addAll records
  (result, { plan with hardware := hardware })

/-- The location names of the cabinets that have records, in order. -/
def cabinetXnames (plan : Plan) : List String :=
  Xname.sortCabinets (plan.hardware.values.map Hardware.Record.xname)

end Plan

end SitePlan
