import SitePlan.ApplicationNode
import SitePlan.Cabinet.Document
import SitePlan.Cabling.Row
import SitePlan.Json.Document
import SitePlan.Json.Reader
import SitePlan.Site.Directory
import SitePlan.Switch.Listing
import SitePlan.Yaml.Document
import SitePlan.Yaml.Reader

/-!
# Sites

A site is described in three or four files: its cabinets, its cabling sheet, its
management switches, and perhaps what is special about its application nodes. All files
are read and checked before anything is planned; a fault names the file that it is in.
-/

namespace SitePlan

/-- What is known of a site. -/
structure Site where
  /-- The groups of cabinets, populated. -/
  cabinets : List Cabinet.Group := []
  /-- The rows of the cabling sheet. -/
  rows : List Cabling.Row := []
  switches : List Switch := []
  applicationNodes : ApplicationNode.Config := {}

namespace Site

/-- The files of a description. -/
inductive File
  | cabinets
  | cabling
  | switches
  | applicationNodes
  deriving DecidableEq

/-- Where the files are. -/
structure Paths where
  cabinets : String := "cabinets.yaml"
  cabling : String := "hmn_connections.json"
  switches : String := "switch_metadata.csv"
  applicationNodes : Option String := none
  deriving DecidableEq

/-- What is wrong with a file. -/
inductive Fault
  /-- It cannot be read as text. -/
  | unread (fault : Directory.Fault)
  /-- Its text is not in the notation, or does not say what such a file says. -/
  | malformed
  | cabinets (fault : Cabinet.Error)
  | switches (fault : Switch.Listing.Error)
  | applicationNodes (fault : ApplicationNode.Error)
  deriving DecidableEq

/-- Why a site could not be loaded. -/
structure LoadError where
  file : File
  path : String
  fault : Fault
  deriving DecidableEq

namespace LoadError

/-- What was tried with the file. -/
def context (e : LoadError) : String :=
  match e.fault, e.file with
  | .unread _, .cabinets => s!"Failed to read cabinets from {e.path}"
  | .unread _, .cabling => s!"Failed to read HMN connections from {e.path}"
  | .unread _, .switches => s!"Failed to read switch metadata from {e.path}"
  | .unread _, .applicationNodes => s!"Failed to read application node config from {e.path}"
  | .malformed, .cabinets => s!"Failed to parse cabinets file {e.path}"
  | .malformed, .cabling => s!"Failed to parse HMN connections file {e.path}"
  | .malformed, .switches => s!"Failed to parse switch metadata file {e.path}"
  | .malformed, .applicationNodes => s!"Failed to parse application node config {e.path}"
  | _, .cabinets => s!"Invalid cabinets file {e.path}"
  | _, .cabling => s!"Invalid HMN connections file {e.path}"
  | _, .switches => s!"Invalid switch metadata file {e.path}"
  | _, .applicationNodes => s!"Invalid application node config {e.path}"

/-- What is wrong with the file in words, and what is behind it, from the outside in. -/
def causes (e : LoadError) : List String :=
  match e.fault with
  | .unread fault => [fault.message]
  | .malformed => ["the text does not have the expected form"]
  | .cabinets fault => [fault.message]
  | .switches fault => fault.causes
  | .applicationNodes fault => [fault.message]

end LoadError

/-- The cabinets that a text declares, populated and checked. -/
def readCabinets (text : String) : Except Fault (List Cabinet.Group) :=
  match (Yaml.parse? text).bind Cabinet.readGroups? with
  | none => .error .malformed
  | some groups =>
    let groups := groups.map Cabinet.Group.populate
    match Cabinet.validate groups with
    | .error fault => .error (.cabinets fault)
    | .ok () => .ok groups

/-- The rows of the cabling sheet that a text holds. -/
def readCabling (text : String) : Except Fault (List Cabling.Row) :=
  match (Json.parse? text).bind (Document.list? Cabling.Row.read?) with
  | none => .error .malformed
  | some rows => .ok rows

/-- The switches that a text lists. -/
def readSwitches (text : String) : Except Fault (List Switch) :=
  (Switch.Listing.read text).mapError .switches

/-- What a text says about application nodes, normalized and checked. -/
def readApplicationNodes (text : String) : Except Fault ApplicationNode.Config :=
  match (Yaml.parse? text).bind ApplicationNode.Config.read? with
  | none => .error .malformed
  | some config => do
    let config ← config.normalize.mapError .applicationNodes
    config.validate.mapError .applicationNodes
    return config

/-- Reads a file of a description. -/
def loadFile (dir : Directory) (file : File) (path : String)
    (read : String → Except Fault α) : Except LoadError α :=
  ((dir.text path).mapError Fault.unread >>= read).mapError (⟨file, path, ·⟩)

/-- Loads a site. -/
def load (dir : Directory) (paths : Paths) : Except LoadError Site := do
  return {
    cabinets := ← loadFile dir .cabinets paths.cabinets readCabinets
    rows := ← loadFile dir .cabling paths.cabling readCabling
    switches := ← loadFile dir .switches paths.switches readSwitches
    applicationNodes := ← match paths.applicationNodes with
      | none => .ok {}
      | some path => loadFile dir .applicationNodes path readApplicationNodes }

end Site

end SitePlan
