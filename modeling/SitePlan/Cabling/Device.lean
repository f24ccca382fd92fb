import SitePlan.ApplicationNode
import SitePlan.Cabling.Position

/-!
# What a row describes

The name in the first column says what kind of device a row describes. The rules are
tried in a fixed order: router controllers, power distribution units, doors, management
switches. Any other device is a node, known by how its name begins.
-/

namespace SitePlan.Cabling

/-- What a management node is for. -/
inductive ManagementRole
  | master
  | worker
  | storage
  deriving DecidableEq

namespace ManagementRole

/-- Every role of management nodes. -/
def all : List ManagementRole := [master, worker, storage]

/-- How the names of a role's nodes begin in the sheet. -/
def stem : ManagementRole → String
  | master => "mn"
  | worker => "wn"
  | storage => "sn"

/-- The role in records. -/
def subRole : ManagementRole → String
  | master => "Master"
  | worker => "Worker"
  | storage => "Storage"

/-- How the host names of a role's nodes begin. -/
def hostStem : ManagementRole → String
  | master => "ncn-m"
  | worker => "ncn-w"
  | storage => "ncn-s"

/-- The host name of the node with this number. -/
def hostName (role : ManagementRole) (number : UInt32) : String :=
  role.hostStem ++ Text.padText 3 number.toNat

end ManagementRole

/-- What a node is. -/
inductive NodeKind
  | management (role : ManagementRole) (number : UInt32)
  /-- A compute node, with the number in its name. -/
  | compute (nid : UInt64)
  /-- An application node, with what it is for if that is known. -/
  | application (subRole : Option String)
  /-- The controller of an enclosure. -/
  | system
  | unknown
  deriving DecidableEq

/-- What a row describes. -/
inductive Device
  /-- The controller of a router, by its place. -/
  | routerBmc (position : Position)
  /-- The controller of a power distribution unit. -/
  | pdu (controller : UInt32)
  /-- A cooling door. -/
  | door
  /-- A management switch. -/
  | mgmtSwitch
  | node (kind : NodeKind)
  deriving DecidableEq

/-- The text begins with the word. -/
def beginsWith (word : String) (name : List Char) : Bool := word.toList.isPrefixOf name

/-- The word occurs in the text. -/
def hasWord (word : String) : List Char → Bool
  | [] => word.isEmpty
  | c :: rest => beginsWith word (c :: rest) || hasWord word rest

/-- The decimal digits that follow a word at the start of a text, if there are any. -/
def digitsAfter? (word : String) (name : List Char) : Option (List Char) :=
  let digits := (name.drop word.length).takeWhile Text.isDecimalDigit
  if beginsWith word name && !digits.isEmpty then some digits else none

/-- The decimal digits at the end of a text. -/
def lastDigits (name : List Char) : List Char :=
  (name.reverse.takeWhile Text.isDecimalDigit).reverse

/-- The digits of a power distribution unit whose name starts here: `pdu4`, or `x3000p4`
with its cabinet. -/
def pduDigitsHere? : List Char → Option (List Char)
  | 'x' :: rest =>
    if rest.head?.any Text.isDecimalDigit then
      digitsAfter? "p" (rest.dropWhile Text.isDecimalDigit)
    else none
  | name => digitsAfter? "pdu" name

/-- The digits of the first power distribution unit that a name mentions. -/
def pduDigits? : List Char → Option (List Char)
  | [] => none
  | c :: rest => (pduDigitsHere? (c :: rest)).or (pduDigits? rest)

/-- The name of a router controller. -/
def isRouterBmc (name : List Char) : Bool :=
  name = "columbia".toList || beginsWith "sw-hsn" name

/-- The name of a management switch. These are not taken from the sheet. -/
def isMgmtSwitch (name : List Char) : Bool :=
  ["sw-leaf", "sw-25g", "sw-40g", "sw-leaf-bmc", "sw-agg", "sw-smn"].any (beginsWith · name)

/-- The role in the name of a management node and the digits of its number. -/
def management? (name : List Char) : Option (ManagementRole × List Char) :=
  ManagementRole.all.findSome? fun role => (digitsAfter? role.stem name).map (role, ·)

/-- The name of a compute node. -/
def isCompute (name : List Char) : Bool :=
  ["nid", "cn-", "cn"].any fun word => (digitsAfter? word name).isSome

/-- A number of 64 bits in ASCII digits. -/
def uint64? (digits : List Char) : Option UInt64 := do
  let n ← Text.readNat? digits
  if n < UInt64.size then some n.toUInt64 else none

/-- What the node of a row is. -/
def Row.nodeKind (config : ApplicationNode.Config) (row : Row) : Except Error NodeKind :=
  let name := row.key.toList
  match management? name with
  | some (role, digits) =>
    match uint32? digits with
    | some number => .ok (.management role number)
    | none => .error (.malformed "management node number" row.source row.source)
  | none =>
    if isCompute name then
      match uint64? (lastDigits name) with
      | some nid => .ok (.compute nid)
      | none => .error (.malformed "NID" row.source row.source)
    else
      match config.matchPrefix? row.key with
      | some p => .ok (.application (config.subRoleForPrefix? p))
      | none => .ok (if hasWord "cmc" name then .system else .unknown)

/-- What a row describes. A fault is a number that the row needs and does not have. -/
def Row.device (config : ApplicationNode.Config) (row : Row) : Except Error Device :=
  let name := row.key.toList
  if isRouterBmc name then row.position.map .routerBmc
  else
    match pduDigits? name with
    | some digits =>
      match uint32? digits with
      | some controller => .ok (.pdu controller)
      | none => .error (.malformed "PDU number" row.source row.source)
    | none =>
      if hasWord "door" name then .ok .door
      else if isMgmtSwitch name then .ok .mgmtSwitch
      else (row.nodeKind config).map .node

end SitePlan.Cabling
