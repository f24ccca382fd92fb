import SitePlan.Xname.Grammar

/-!
# Located components

The components that site planning builds location names for, each with its ordinals.
A component knows the component that encloses it, and a child is made from its place in
its parent. Its location name lists its letters with the ordinals, and reading that name
gives the component back.
-/

namespace SitePlan.Xname

/-- A component by its place in the machine room. -/
inductive Component
  /-- The whole system. -/
  | system
  /-- A cabinet. -/
  | cabinet (cabinet : UInt32)
  /-- The controller of a cabinet's power distribution unit. -/
  | cabinetPduController (cabinet controller : UInt32)
  /-- A chassis of a cabinet. -/
  | chassis (cabinet chassis : UInt32)
  /-- The board controller of a chassis. -/
  | chassisBmc (cabinet chassis bmc : UInt32)
  /-- A compute blade, or a slot of a rack. -/
  | computeModule (cabinet chassis slot : UInt32)
  /-- The controller of a node board. -/
  | nodeBmc (cabinet chassis slot bmc : UInt32)
  /-- A node. -/
  | node (cabinet chassis slot bmc node : UInt32)
  /-- A router module of the high-speed network. -/
  | routerModule (cabinet chassis router : UInt32)
  /-- The controller of a router module. -/
  | routerBmc (cabinet chassis router bmc : UInt32)
  /-- A management switch. -/
  | mgmtSwitch (cabinet chassis slot : UInt32)
  /-- A connector of a management switch. -/
  | mgmtSwitchConnector (cabinet chassis slot connector : UInt32)
  /-- The enclosure of high-level switches. -/
  | mgmtHlSwitchEnclosure (cabinet chassis slot : UInt32)
  /-- A high-level switch. -/
  | mgmtHlSwitch (cabinet chassis slot space : UInt32)
  /-- A coolant distribution unit. -/
  | cdu (cdu : UInt32)
  /-- The management switch of a coolant distribution unit. -/
  | cduMgmtSwitch (cdu slot : UInt32)
  deriving DecidableEq

namespace Component

/-- What the component is. -/
def kind : Component → Kind
  | system => .system
  | cabinet .. => .cabinet
  | cabinetPduController .. => .cabinetPduController
  | chassis .. => .chassis
  | chassisBmc .. => .chassisBmc
  | computeModule .. => .computeModule
  | nodeBmc .. => .nodeBmc
  | node .. => .node
  | routerModule .. => .routerModule
  | routerBmc .. => .routerBmc
  | mgmtSwitch .. => .mgmtSwitch
  | mgmtSwitchConnector .. => .mgmtSwitchConnector
  | mgmtHlSwitchEnclosure .. => .mgmtHlSwitchEnclosure
  | mgmtHlSwitch .. => .mgmtHlSwitch
  | cdu .. => .cdu
  | cduMgmtSwitch .. => .cduMgmtSwitch

/-- The fields of the component, outermost first: each is an ordinal with the letter that stands in
front of it in the location name. -/
def fields : Component → List (Char × UInt32)
  | system => []
  | cabinet x => [('x', x)]
  | cabinetPduController x m => [('x', x), ('m', m)]
  | chassis x c => [('x', x), ('c', c)]
  | chassisBmc x c b => [('x', x), ('c', c), ('b', b)]
  | computeModule x c s => [('x', x), ('c', c), ('s', s)]
  | nodeBmc x c s b => [('x', x), ('c', c), ('s', s), ('b', b)]
  | node x c s b n => [('x', x), ('c', c), ('s', s), ('b', b), ('n', n)]
  | routerModule x c r => [('x', x), ('c', c), ('r', r)]
  | routerBmc x c r b => [('x', x), ('c', c), ('r', r), ('b', b)]
  | mgmtSwitch x c w => [('x', x), ('c', c), ('w', w)]
  | mgmtSwitchConnector x c w j => [('x', x), ('c', c), ('w', w), ('j', j)]
  | mgmtHlSwitchEnclosure x c h => [('x', x), ('c', c), ('h', h)]
  | mgmtHlSwitch x c h s => [('x', x), ('c', c), ('h', h), ('s', s)]
  | cdu d => [('d', d)]
  | cduMgmtSwitch d w => [('d', d), ('w', w)]

/-- The ordinals of the component, outermost first. -/
def ordinals (c : Component) : List UInt32 := c.fields.map Prod.snd

/-- The component of a kind with the given ordinals; only the kinds listed above are
components. -/
def ofOrdinals? : Kind → List UInt32 → Option Component
  | .system, [] => some system
  | .cabinet, [x] => some (cabinet x)
  | .cabinetPduController, [x, m] => some (cabinetPduController x m)
  | .chassis, [x, c] => some (chassis x c)
  | .chassisBmc, [x, c, b] => some (chassisBmc x c b)
  | .computeModule, [x, c, s] => some (computeModule x c s)
  | .nodeBmc, [x, c, s, b] => some (nodeBmc x c s b)
  | .node, [x, c, s, b, n] => some (node x c s b n)
  | .routerModule, [x, c, r] => some (routerModule x c r)
  | .routerBmc, [x, c, r, b] => some (routerBmc x c r b)
  | .mgmtSwitch, [x, c, w] => some (mgmtSwitch x c w)
  | .mgmtSwitchConnector, [x, c, w, j] => some (mgmtSwitchConnector x c w j)
  | .mgmtHlSwitchEnclosure, [x, c, h] => some (mgmtHlSwitchEnclosure x c h)
  | .mgmtHlSwitch, [x, c, h, s] => some (mgmtHlSwitch x c h s)
  | .cdu, [d] => some (cdu d)
  | .cduMgmtSwitch, [d, w] => some (cduMgmtSwitch d w)
  | _, _ => none

/-- The enclosing component. The system lies in nothing. -/
def parent? : Component → Option Component
  | system => none
  | cabinet _ => some system
  | cabinetPduController x _ => some (cabinet x)
  | chassis x _ => some (cabinet x)
  | chassisBmc x c _ => some (chassis x c)
  | computeModule x c _ => some (chassis x c)
  | nodeBmc x c s _ => some (computeModule x c s)
  | node x c s b _ => some (nodeBmc x c s b)
  | routerModule x c _ => some (chassis x c)
  | routerBmc x c r _ => some (routerModule x c r)
  | mgmtSwitch x c _ => some (chassis x c)
  | mgmtSwitchConnector x c w _ => some (mgmtSwitch x c w)
  | mgmtHlSwitchEnclosure x c _ => some (chassis x c)
  | mgmtHlSwitch x c h _ => some (mgmtHlSwitchEnclosure x c h)
  | cdu _ => some system
  | cduMgmtSwitch d _ => some (cdu d)

/-- What can be placed in the component: for each sort of child, the child by its place. -/
def childConstructors : Component → List (UInt32 → Component)
  | system => [cabinet, cdu]
  | cabinet x => [chassis x, cabinetPduController x]
  | chassis x c =>
    [chassisBmc x c, computeModule x c, routerModule x c, mgmtSwitch x c, mgmtHlSwitchEnclosure x c]
  | computeModule x c s => [nodeBmc x c s]
  | nodeBmc x c s b => [node x c s b]
  | routerModule x c r => [routerBmc x c r]
  | mgmtSwitch x c w => [mgmtSwitchConnector x c w]
  | mgmtHlSwitchEnclosure x c h => [mgmtHlSwitch x c h]
  | cdu d => [cduMgmtSwitch d]
  | _ => []

/-- The child of the given kind at a place in the component, if such children lie
there. -/
def child? (parent : Component) (kind : Kind) (place : UInt32) : Option Component :=
  (parent.childConstructors.map fun make => make place).find? fun child => child.kind = kind

/-- The location name of the component: the fields one after another, each as its letter and its
ordinal. -/
def toXname : Component → String
  | system => root
  | c => String.ofList (c.fields.flatMap fun (letter, n) => letter :: Nat.toDigits 10 n.toNat)

/-- The component of the expected kind that a location name denotes. -/
def parse (expected : Kind) (s : String) : Except Error Component :=
  match ordinalsOfKind expected s with
  | .error fault => .error fault
  | .ok ns =>
    match ofOrdinals? expected ns with
    | some c => .ok c
    | none => .error (.invalid s)

/-- Two components of one kind compare by their ordinals, outermost first. -/
def compare (a b : Component) : Ordering :=
  compareLex a.ordinals b.ordinals
where
  /-- The first difference decides, and the shorter list comes first. -/
  compareLex : List UInt32 → List UInt32 → Ordering
    | [], [] => .eq
    | [], _ :: _ => .lt
    | _ :: _, [] => .gt
    | x :: xs, y :: ys => (Ord.compare x y).then (compareLex xs ys)

/-- A component is determined by its kind and its ordinals. -/
theorem ofOrdinals?_ordinals (c : Component) : ofOrdinals? c.kind c.ordinals = some c := by
  cases c <;> rfl

end Component

end SitePlan.Xname
