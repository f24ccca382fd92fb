import SitePlan.Hardware.Record

/-!
# The hardware inventory

Records filed under their location names. A location has at most one record.
-/

namespace SitePlan.Hardware

/-- Hardware records by location name. -/
abbrev Inventory := SortedMap Record

namespace Inventory

/-- Files a record, unless its location has one. -/
def add (inventory : Inventory) (record : Record) : Except Error Inventory :=
  if inventory.contains record.xname then .error (.duplicateXname record.xname)
  else .ok (inventory.insert record.xname record)

/-- Files records up to the first one whose location has a record already. -/
def addAll (inventory : Inventory) : List Record → Except Error Unit × Inventory
  | [] => (.ok (), inventory)
  | record :: records =>
    match inventory.add record with
    | .error fault => (.error fault, inventory)
    | .ok inventory => addAll inventory records

/-- The records with a tag, in the order of their location names. -/
def withTag (inventory : Inventory) (tag : Tag) : List Record :=
  inventory.values.filter fun record => record.tag = tag

end Inventory

end SitePlan.Hardware
