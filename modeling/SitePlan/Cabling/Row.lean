import SitePlan.Document
import SitePlan.Json
import SitePlan.Text.Blank
import SitePlan.Text.LowerCase

/-!
# Rows of the cabling sheet

The cabling sheet lists the devices that are wired to the hardware management network,
one row each: what the device is, where it stands, what it stands in, and the switch connector
at the other end of its cable. The columns are free text.
-/

namespace SitePlan.Cabling

/-- One row of the sheet, column by column. -/
structure Row where
  source : String := ""
  sourceRack : String := ""
  sourceLocation : String := ""
  sourceSubLocation : String := ""
  sourceParent : String := ""
  destinationRack : String := ""
  destinationLocation : String := ""
  destinationConnector : String := ""
  deriving DecidableEq

/-- A name as names are compared: without the space around it and in lower case. -/
def nameKey (name : String) : String := Text.lowerText (Text.trimText name)

namespace Row

/-- The device's name as names are compared. -/
def key (row : Row) : String := nameKey row.source

/-- The name of the enclosure around the device, as names are compared. -/
def parentKey (row : Row) : String := nameKey row.sourceParent

/-- The row names an enclosure. -/
def hasParent (row : Row) : Bool := Text.trimText row.sourceParent ≠ ""

/-- The row names a switch connector. -/
def isCabled (row : Row) : Bool := Text.trimText row.destinationConnector ≠ ""

/-- A row in a document. Missing columns are empty. -/
def read? {δ : Type} [Document δ] (d : δ) : Option Row := do
  let r ← Document.record? ["Source", "SourceRack", "SourceLocation", "SourceSubLocation",
    "SourceParent", "DestinationRack", "DestinationLocation", "DestinationPort"] d
  let column (name : String) : Option String := r.withDefault? name "" Document.text?
  return {
    source := ← column "Source"
    sourceRack := ← column "SourceRack"
    sourceLocation := ← column "SourceLocation"
    sourceSubLocation := ← column "SourceSubLocation"
    sourceParent := ← column "SourceParent"
    destinationRack := ← column "DestinationRack"
    destinationLocation := ← column "DestinationLocation"
    destinationConnector := ← column "DestinationPort" }

/-- A row in JSON. -/
def toJson (row : Row) : Json :=
  .object [("Source", .string row.source), ("SourceRack", .string row.sourceRack),
    ("SourceLocation", .string row.sourceLocation),
    ("SourceSubLocation", .string row.sourceSubLocation),
    ("SourceParent", .string row.sourceParent),
    ("DestinationRack", .string row.destinationRack),
    ("DestinationLocation", .string row.destinationLocation),
    ("DestinationPort", .string row.destinationConnector)]

end Row

end SitePlan.Cabling
