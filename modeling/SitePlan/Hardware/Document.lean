import SitePlan.Document
import SitePlan.Hardware.Inventory
import SitePlan.Json

/-!
# Hardware records in documents

A record's properties carry no word that says what kind they are: the first kind whose
fields they have is taken.
-/

namespace SitePlan.Hardware

open Document

variable {δ : Type} [Document δ]

/-- A list of texts in JSON. -/
def textsToJson (name : String) (texts : List String) : List (String × Json) :=
  Json.nonemptyList name texts .string

/-- A class in a document. -/
def Class.read? (d : δ) : Option Class := do ofName? (← word? d)

/-- A tag in a document. -/
def Tag.read? (d : δ) : Option Tag := do ofWord? (← word? d)

/-- A role in a document. -/
def Role.read? (d : δ) : Option Role := do ofName? (← word? d)

/-- Properties of a node in a document. -/
def NodeProperties.read? (d : δ) : Option NodeProperties := do
  let r ← record? ["NID", "Role", "SubRole", "Aliases"] d
  return {
    nid := ← r.optional? "NID" uint64?
    role := ← r.required? "Role" Role.read?
    subRole := ← r.optional? "SubRole" text?
    aliases := ← r.withDefault? "Aliases" [] (list? text?) }

/-- Properties of a node in JSON. -/
def NodeProperties.toJson (p : NodeProperties) : Json :=
  .object (
    Json.optional "NID" p.nid (fun n => .natural n.toNat) ++
    [("Role", .string p.role.name)] ++
    Json.optional "SubRole" p.subRole .string ++
    textsToJson "Aliases" p.aliases)

/-- Properties of a connector in a document. -/
def ConnectorProperties.read? (d : δ) : Option ConnectorProperties := do
  let r ← record? ["NodeNics", "VendorName"] d
  return {
    nodeNics := ← r.required? "NodeNics" (list? text?)
    vendorName := ← r.required? "VendorName" text? }

/-- Properties of a connector in JSON. -/
def ConnectorProperties.toJson (p : ConnectorProperties) : Json :=
  .object [("NodeNics", .array (p.nodeNics.map .string)), ("VendorName", .string p.vendorName)]

/-- The credentials among the fields of a switch; they count only when all are there. -/
def SnmpCredentials.read? (r : Document.Record δ) : Option SnmpCredentials := do
  return {
    username := ← r.required? "SNMPUsername" text?
    authPassword := ← r.required? "SNMPAuthPassword" text?
    authProtocol := ← r.required? "SNMPAuthProtocol" text?
    privPassword := ← r.required? "SNMPPrivPassword" text?
    privProtocol := ← r.required? "SNMPPrivProtocol" text? }

/-- The credentials as fields of a switch. -/
def SnmpCredentials.fields (c : SnmpCredentials) : List (String × Json) :=
  [("SNMPUsername", .string c.username), ("SNMPAuthPassword", .string c.authPassword),
    ("SNMPAuthProtocol", .string c.authProtocol), ("SNMPPrivPassword", .string c.privPassword),
    ("SNMPPrivProtocol", .string c.privProtocol)]

/-- Properties of a switch in a document; they need field names. -/
def SwitchProperties.read? (d : δ) : Option SwitchProperties := do
  let _ ← fields? d
  let r ← record? ["IP4addr", "Brand", "Model", "SNMPUsername", "SNMPAuthPassword",
    "SNMPAuthProtocol", "SNMPPrivPassword", "SNMPPrivProtocol", "Aliases"] d
  return {
    ip4Address := ← r.optional? "IP4addr" text?
    brand := ← r.required? "Brand" text?
    model := ← r.optional? "Model" text?
    snmp := SnmpCredentials.read? r
    aliases := ← r.withDefault? "Aliases" [] (list? text?) }

/-- Properties of a switch in JSON. -/
def SwitchProperties.toJson (p : SwitchProperties) : Json :=
  .object (
    Json.optional "IP4addr" p.ip4Address .string ++
    [("Brand", .string p.brand)] ++
    Json.optional "Model" p.model .string ++
    (match p.snmp with
      | none => []
      | some c => c.fields) ++
    textsToJson "Aliases" p.aliases)

/-- Properties of a router controller in a document. -/
def RouterBmcProperties.read? (d : δ) : Option RouterBmcProperties := do
  let r ← record? ["Username", "Password"] d
  return {
    username := ← r.required? "Username" text?
    password := ← r.required? "Password" text? }

/-- Properties of a router controller in JSON. -/
def RouterBmcProperties.toJson (p : RouterBmcProperties) : Json :=
  .object [("Username", .string p.username), ("Password", .string p.password)]

/-- A cabinet's network in a document. -/
def CabinetNetwork.read? (d : δ) : Option CabinetNetwork := do
  let r ← record? ["CIDR", "Gateway", "VLan"] d
  return {
    cidr := ← r.required? "CIDR" text?
    gateway := ← r.required? "Gateway" text?
    vlan := ← r.required? "VLan" uint16? }

/-- A cabinet's network in JSON. -/
def CabinetNetwork.toJson (n : CabinetNetwork) : Json :=
  .object [("CIDR", .string n.cidr), ("Gateway", .string n.gateway),
    ("VLan", .natural n.vlan.toNat)]

/-- Properties of a cabinet in a document. -/
def CabinetProperties.read? (d : δ) : Option CabinetProperties := do
  let r ← record? ["Networks", "Model"] d
  return {
    networks := ← r.required? "Networks" (map? (map? CabinetNetwork.read?))
    model := ← r.optional? "Model" text? }

/-- Values under text keys in JSON. -/
def mapToJson (write : α → Json) (m : SortedMap α) : Json :=
  .object (m.entries.map fun (key, value) => (key, write value))

/-- Properties of a cabinet in JSON. -/
def CabinetProperties.toJson (p : CabinetProperties) : Json :=
  .object (
    [("Networks", mapToJson (mapToJson CabinetNetwork.toJson) p.networks)] ++
    Json.optional "Model" p.model .string)

/-- Properties in a document: the first kind that fits. -/
def Properties.read? (d : δ) : Option Properties :=
  (NodeProperties.read? d).map node <|>
  (ConnectorProperties.read? d).map connector <|>
  (SwitchProperties.read? d).map mgmtSwitch <|>
  (RouterBmcProperties.read? d).map routerBmc <|>
  (CabinetProperties.read? d).map cabinet

/-- Properties in JSON. -/
def Properties.toJson : Properties → Json
  | node p => p.toJson
  | connector p => p.toJson
  | mgmtSwitch p => p.toJson
  | routerBmc p => p.toJson
  | cabinet p => p.toJson

/-- The word for a record's kind. -/
def kindWord : Option Xname.Kind → String
  | some kind => kind.name
  | none => "Invalid"

/-- The kind that a record's word names, exactly as written. -/
def kindOfWord? (s : String) : Option (Option Xname.Kind) :=
  if s = "Invalid" then some none
  else (Xname.Kind.all.find? fun kind => kind.name = s).map some

/-- Words lead back to the kind. -/
theorem kindOfWord?_kindWord (kind : Option Xname.Kind) :
    kindOfWord? (kindWord kind) = some kind := by
  cases kind with
  | none => rfl
  | some kind => cases kind <;> rfl

/-- A record's kind in a document. -/
def kindRead? (d : δ) : Option (Option Xname.Kind) := do kindOfWord? (← word? d)

/-- A hardware record in a document. -/
def Record.read? (d : δ) : Option Record := do
  let r ← record? ["Parent", "Xname", "Type", "Class", "TypeString", "ExtraProperties"] d
  return {
    parent := ← r.required? "Parent" text?
    xname := ← r.required? "Xname" text?
    tag := ← r.required? "Type" Tag.read?
    hardwareClass := ← r.required? "Class" Class.read?
    kind := ← r.required? "TypeString" kindRead?
    properties := ← r.optional? "ExtraProperties" Properties.read? }

/-- A hardware record in JSON. -/
def Record.toJson (r : Record) : Json :=
  .object (
    [("Parent", .string r.parent), ("Xname", .string r.xname), ("Type", .string r.tag.word),
      ("Class", .string r.hardwareClass.name), ("TypeString", .string (kindWord r.kind))] ++
    Json.optional "ExtraProperties" r.properties Properties.toJson)

/-- An inventory in JSON. -/
def Inventory.toJson (inventory : Inventory) : Json := mapToJson Record.toJson inventory

end SitePlan.Hardware
