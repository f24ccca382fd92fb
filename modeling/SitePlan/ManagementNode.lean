import SitePlan.Hardware.Inventory
import SitePlan.Json
import SitePlan.Document
import SitePlan.Sorting

/-!
# Management nodes

The address plan knows a management node by its location and its host name.
-/

namespace SitePlan

/-- A management node. -/
structure ManagementNode where
  /-- The location name. -/
  xname : String
  /-- The host name. -/
  hostName : String
  deriving DecidableEq

namespace ManagementNode

/-- The management node that a record describes, if it does and the node has a host name. -/
def ofRecord? (record : Hardware.Record) : Option ManagementNode := do
  let properties ← record.node?
  if properties.role = .management then
    return ⟨record.xname, ← properties.aliases.head?⟩
  else none

/-- The management nodes of an inventory in the order of their host names; equal host
names stay in the order of the inventory. -/
def ofInventory (inventory : Hardware.Inventory) : List ManagementNode :=
  sortBy (fun a b => a.hostName ≤ b.hostName) (inventory.values.filterMap ofRecord?)

/-- A management node in a document. -/
def read? {δ : Type} [Document δ] (d : δ) : Option ManagementNode := do
  let r ← Document.record? ["xname", "alias"] d
  return {
    xname := ← r.required? "xname" Document.text?
    hostName := ← r.required? "alias" Document.text? }

/-- A management node in JSON. -/
def toJson (n : ManagementNode) : Json :=
  .object [("xname", .string n.xname), ("alias", .string n.hostName)]

end ManagementNode

end SitePlan
