import SitePlan.Address.Document
import SitePlan.Hardware.Record
import SitePlan.Text.Blank

/-!
# Management switches

A site lists its management switches with their locations. The role of a switch decides
which kinds of location it may have and how its host names begin.
-/

namespace SitePlan

namespace Switch

/-- What a switch does in the management fabric. -/
inductive Role
  | cdu
  | leaf
  | spine
  | aggregation
  | leafBmc
  deriving DecidableEq

/-- Who made a switch. -/
inductive Brand
  | aruba
  | dell
  | mellanox
  deriving DecidableEq

namespace Role

/-- The name of a role. -/
def name : Role → String
  | cdu => "CDU"
  | leaf => "Leaf"
  | spine => "Spine"
  | aggregation => "Aggregation"
  | leafBmc => "LeafBMC"

/-- Every role. -/
def all : List Role := [cdu, leaf, spine, aggregation, leafBmc]

/-- How the host names of a role's switches begin. -/
def nameStem : Role → String
  | cdu => "sw-cdu"
  | leaf => "sw-leaf"
  | spine => "sw-spine"
  | aggregation => "sw-agg"
  | leafBmc => "sw-leaf-bmc"

/-- The kinds of location that a role's switches may have. -/
def allowedKinds : Role → List Xname.Kind
  | leafBmc => [.mgmtSwitch]
  | leaf | spine | aggregation => [.mgmtHlSwitch]
  | cdu => [.cduMgmtSwitch, .mgmtHlSwitch]

/-- The role of exactly this name. -/
def ofName? (s : String) : Option Role := all.find? fun role => role.name = s

end Role

namespace Brand

/-- The name of a brand. -/
def name : Brand → String
  | aruba => "Aruba"
  | dell => "Dell"
  | mellanox => "Mellanox"

/-- Every brand. -/
def all : List Brand := [aruba, dell, mellanox]

/-- The brand of exactly this name. -/
def ofName? (s : String) : Option Brand := all.find? fun brand => brand.name = s

end Brand

/-- What makes an entry of a switch list unusable. -/
inductive Error
  /-- A switch of this role cannot lie at this location. -/
  | xnameMismatch (xname : String) (role : Role) (actual : Option Xname.Kind)
      (expected : List Xname.Kind)
  | unknownRole (written : String)
  | unknownBrand (written : String)
  deriving DecidableEq

/-- The fault in words. -/
def Error.message : Error → String
  | .xnameMismatch xname role actual expected =>
    s!"Switch {xname} of type {role.name} has xname type " ++ Hardware.kindName actual ++
      ", expected " ++ " or ".intercalate (expected.map Xname.Kind.name)
  | .unknownRole written => s!"Unknown switch type: {written}"
  | .unknownBrand written => s!"Unknown switch brand: {written}"

/-- The role that people name by this word, whatever its case and the space around it. -/
def Role.parse (word : String) : Except Error Role :=
  match all.find? fun role => role.name.toLower = (Text.trimText word).toLower with
  | some role => .ok role
  | none => .error (.unknownRole word)

/-- The brand that people name by this word, whatever its case and the space around it. -/
def Brand.parse (word : String) : Except Error Brand :=
  match all.find? fun brand => brand.name.toLower = (Text.trimText word).toLower with
  | some brand => .ok brand
  | none => .error (.unknownBrand word)

end Switch

/-- A management switch. -/
structure Switch where
  /-- The location name. -/
  xname : String
  /-- The host name. -/
  hostName : String
  role : Switch.Role
  brand : Switch.Brand
  /-- The model, if it is known. -/
  model : String
  /-- The address of the management interface, if it is known. -/
  managementAddress : Option Ipv4
  deriving DecidableEq

namespace Switch

/-- The location suits the role. -/
def validate (s : Switch) : Except Error Unit :=
  match Xname.kind? s.xname with
  | some kind =>
    if kind ∈ s.role.allowedKinds then .ok ()
    else .error (.xnameMismatch s.xname s.role (some kind) s.role.allowedKinds)
  | none => .error (.xnameMismatch s.xname s.role none s.role.allowedKinds)

/-- The host name of the switch with this number among those of its role. -/
def numberedName (stem : String) (number : Nat) : String :=
  stem ++ "-" ++ Text.padText 3 number

/-- Host names for switches that follow switches of the roles seen so far. -/
def assignNamesAfter (seen : List Role) : List Switch → List Switch
  | [] => []
  | s :: rest =>
    { s with hostName := numberedName s.role.nameStem (seen.count s.role + 1) } ::
      assignNamesAfter (s.role :: seen) rest

/-- Gives every switch a host name with its number among the switches of its role. -/
def assignNames (switches : List Switch) : List Switch := assignNamesAfter [] switches

/-- The locations of the switches of a role, in order. -/
def xnamesOfRole (role : Role) (switches : List Switch) : List String :=
  (switches.filter fun s => s.role = role).map Switch.xname

/-- A role in a document. -/
def Role.read? {δ : Type} [Document δ] (d : δ) : Option Role := do
  ofName? (← Document.word? d)

/-- A brand in a document. -/
def Brand.read? {δ : Type} [Document δ] (d : δ) : Option Brand := do
  ofName? (← Document.word? d)

/-- A switch in a document. -/
def read? {δ : Type} [Document δ] (d : δ) : Option Switch := do
  let r ← Document.record?
    ["xname", "alias", "switch_type", "brand", "model", "management_interface"] d
  return {
    xname := ← r.required? "xname" Document.text?
    hostName := ← r.withDefault? "alias" "" Document.text?
    role := ← r.required? "switch_type" Role.read?
    brand := ← r.required? "brand" Brand.read?
    model := ← r.withDefault? "model" "" Document.text?
    managementAddress := ← r.optional? "management_interface" Ipv4.read? }

/-- A switch in JSON. -/
def toJson (s : Switch) : Json :=
  .object (
    [("xname", .string s.xname), ("alias", .string s.hostName),
      ("switch_type", .string s.role.name), ("brand", .string s.brand.name),
      ("model", .string s.model)] ++
    Json.optional "management_interface" s.managementAddress Ipv4.toJson)

end Switch

end SitePlan
