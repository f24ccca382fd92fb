import SitePlan.Hardware.Inventory
import SitePlan.Synthesis.LiquidCooled
import SitePlan.Synthesis.Rack
import SitePlan.Synthesis.Switches

/-!
# The inventory of a site

Switches, the hardware in racks and the hardware in liquid-cooled cabinets are filed
together, in this order.
-/

namespace SitePlan.Synthesis

open Hardware

/-- Files records, which must all be new. -/
def file (inventory : Inventory) (records : List Record) : Except Error Inventory :=
  match inventory.addAll records with
  | (.ok (), inventory) => .ok inventory
  | (.error fault, _) => .error (.hardware fault)

/-- The inventory of a site with this cabling sheet. -/
def inventory (inputs : Inputs) (nids : Nids) (rows : List Cabling.Row) :
    Except Error Inventory × Nids :=
  match (do file .empty (← switchHardware inputs)) with
  | .error fault => (.error fault, nids)
  | .ok switches =>
    let (racks, nids) := rackHardware inputs nids rows
    match (do file switches (← racks)) with
    | .error fault => (.error fault, nids)
    | .ok withRacks =>
      let (cabinets, nids) := liquidCooledHardware inputs nids
      ((do file withRacks (← cabinets)), nids)

end SitePlan.Synthesis
