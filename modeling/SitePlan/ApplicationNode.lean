import SitePlan.Document
import SitePlan.Json
import SitePlan.Xname.Canonical
import SitePlan.Xname.Grammar

/-!
# Application nodes

Nodes that serve users and gateways are known by how their source names begin. A site
adds beginnings of its own to the built-in ones and says what such nodes are for. It may
also give host names to single nodes by location.
-/

namespace SitePlan.ApplicationNode

/-- Beginnings of source names that every site has, in the order in which they are tried. -/
def builtInPrefixes : List String := ["uan", "login", "lnet", "ln", "gn", "vn"]

/-- What nodes of the built-in beginnings are for. -/
def builtInSubRoles : List (String × String) :=
  [("uan", "UAN"), ("login", "UAN"), ("lnet", "LNETRouter"), ("ln", "UAN"),
    ("gn", "Gateway"), ("vn", "Visualization")]

/-- What stands in a configuration file where the site has to fill in a subrole. -/
def placeholder : String := "~~FIXME~~"

/-- What a site says about its application nodes. -/
structure Config where
  /-- Beginnings of source names. -/
  prefixes : List String := []
  /-- What nodes are for, by the beginnings of their source names. -/
  subRoles : SortedMap String := .empty
  /-- Host names by location. -/
  aliases : SortedMap (List String) := .empty
  deriving DecidableEq

/-- What makes a configuration unusable. -/
inductive Error
  | duplicatePrefix (written : String)
  /-- Two keys of a map become the same. -/
  | collision (field key : String)
  | invalidAliasXname (xname : String)
  | aliasXnameNotNode (xname : String) (actual : Xname.Kind)
  /-- Two nodes have one host name. -/
  | duplicateAlias (name first second : String)
  /-- These beginnings still have the placeholder. -/
  | placeholderSubRole (prefixes : List String)
  | missingSubRole (written : String)
  deriving DecidableEq

/-- The fault in words. -/
def Error.message : Error → String
  | .duplicatePrefix written =>
    s!"Duplicate application node prefix after normalization: {written}"
  | .collision field key => s!"Normalization of {field} produced duplicate key: {key}"
  | .invalidAliasXname xname => s!"Invalid xname in application node aliases: {xname}"
  | .aliasXnameNotNode xname actual =>
    s!"Alias xname {xname} is a {actual.name}, only Node xnames may have aliases"
  | .duplicateAlias name first second => s!"Alias {name} is used by both {first} and {second}"
  | .placeholderSubRole prefixes =>
    "Application node prefixes with unresolved subrole placeholder: " ++
      ", ".intercalate prefixes
  | .missingSubRole written => s!"Application node prefix {written} has no HSM subrole"

namespace Config

/-- Texts in lower case, which must then differ. -/
def lowerAll (seen : List String) : List String → Except Error (List String)
  | [] => .ok []
  | p :: rest =>
    let lowered := Text.lowerText p
    if seen.contains lowered then .error (.duplicatePrefix lowered)
    else
      match lowerAll (lowered :: seen) rest with
      | .error fault => .error fault
      | .ok ps => .ok (lowered :: ps)

/-- Entries under changed keys, which must differ, added to a map. -/
def rekeyInto (field : String) (change : String → String) (m : SortedMap α) :
    List (String × α) → Except Error (SortedMap α)
  | [] => .ok m
  | (key, value) :: rest =>
    if m.contains (change key) then .error (.collision field (change key))
    else rekeyInto field change (m.insert (change key) value) rest

/-- A map with changed keys, which must differ. -/
def rekey (field : String) (change : String → String) (m : SortedMap α) :
    Except Error (SortedMap α) :=
  rekeyInto field change .empty m.entries

/-- The configuration with beginnings in lower case and locations in canonical spelling.
Nothing may become the same by that. -/
def normalize (c : Config) : Except Error Config := do
  let prefixes ← lowerAll [] c.prefixes
  let subRoles ← rekey "prefix_hsm_subroles" Text.lowerText c.subRoles
  let aliases ← rekey "aliases" Xname.normalize c.aliases
  return ⟨prefixes, subRoles, aliases⟩

/-- Replaces the parts of the configuration one by one, after all of them have been
normalized. -/
def replaceParts : ExceptT Error (StateM Config) Unit := do
  let c ← get
  let prefixes ← lowerAll [] c.prefixes
  let subRoles ← rekey "prefix_hsm_subroles" Text.lowerText c.subRoles
  let aliases ← rekey "aliases" Xname.normalize c.aliases
  modify fun c => { c with prefixes := prefixes }
  modify fun c => { c with subRoles := subRoles }
  modify fun c => { c with aliases := aliases }

/-- Normalizes the configuration in place: how it ends, and the configuration afterwards. -/
def normalizeInPlace (c : Config) : Except Error Unit × Config := replaceParts.run.run c

/-- Adds a node's host names to the owners of host names seen so far. -/
def addOwners (node : String) (owners : SortedMap String) :
    List String → Except Error (SortedMap String)
  | [] => .ok owners
  | name :: names =>
    match owners.get? name with
    | some first =>
      if first = node then addOwners node owners names
      else .error (.duplicateAlias name first node)
    | none => addOwners node (owners.insert name node) names

/-- Locations that have host names are nodes, and no two of them share one. -/
def checkAliases (owners : SortedMap String) : List (String × List String) → Except Error Unit
  | [] => .ok ()
  | (node, names) :: rest =>
    match Xname.kind? node with
    | none => .error (.invalidAliasXname node)
    | some .node =>
      match addOwners node owners names with
      | .error fault => .error fault
      | .ok owners => checkAliases owners rest
    | some actual => .error (.aliasXnameNotNode node actual)

/-- The subrole of a beginning; what the site says comes first. -/
def subRoleForPrefix? (c : Config) (p : String) : Option String :=
  (c.subRoles.get? p).or (builtInSubRoles.lookup p)

/-- The beginnings that have the placeholder for a subrole, in order. -/
def placeholders (c : Config) : List String :=
  (c.subRoles.entries.filter fun e => e.2 = placeholder).map Prod.fst

/-- Host names belong to nodes and are not shared, and every beginning has a subrole that
is no placeholder. -/
def validate (c : Config) : Except Error Unit := do
  checkAliases .empty c.aliases.entries
  if c.placeholders ≠ [] then throw (.placeholderSubRole c.placeholders)
  match c.prefixes.find? fun p => (c.subRoleForPrefix? p).isNone with
  | some p => throw (.missingSubRole p)
  | none => return ()

/-- All beginnings in the order in which they are tried: the site's own come first. -/
def allPrefixes (c : Config) : List String := c.prefixes ++ builtInPrefixes

/-- The first beginning that the source name has, in any case. -/
def matchPrefix? (c : Config) (source : String) : Option String :=
  let lowered := Text.lower source.toList
  c.allPrefixes.find? fun p => p.toList.isPrefixOf lowered

/-- What the node of this source name is for, if it is an application node. -/
def resolveSubRole? (c : Config) (source : String) : Option String :=
  (c.matchPrefix? source).bind c.subRoleForPrefix?

/-- The host names given to a location. -/
def aliasesFor (c : Config) (xname : String) : List String :=
  (c.aliases.get? xname).getD []

/-- A configuration in a document. -/
def read? {δ : Type} [Document δ] (d : δ) : Option Config := do
  let r ← Document.record? ["prefixes", "prefix_hsm_subroles", "aliases"] d
  return {
    prefixes := ← r.withDefault? "prefixes" [] (Document.list? Document.text?)
    subRoles := ← r.withDefault? "prefix_hsm_subroles" .empty (Document.map? Document.text?)
    aliases := ← r.withDefault? "aliases" .empty
      (Document.map? (Document.list? Document.text?)) }

/-- A configuration in JSON. -/
def toJson (c : Config) : Json :=
  .object [
    ("prefixes", .array (c.prefixes.map .string)),
    ("prefix_hsm_subroles",
      .object (c.subRoles.entries.map fun (key, value) => (key, .string value))),
    ("aliases",
      .object (c.aliases.entries.map fun (key, names) => (key, .array (names.map .string))))]

end Config

end SitePlan.ApplicationNode
