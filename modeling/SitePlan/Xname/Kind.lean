/-!
# Kinds of located components

Every component of a machine room has a location name, made of letters that each
carry an ordinal: the cabinet `x3000`, its chassis `x3000c0`, a slot `x3000c0s17`, a
board controller `x3000c0s17b0`, a node `x3000c0s17b0n0`. The letters alone decide the
kind. Leaving out the last letter gives the kind of the enclosing component, and the
system root `s0` encloses what stands on the floor.
-/

namespace SitePlan.Xname

/-- What a location name can denote. -/
inductive Kind
  | system
  | cdu
  | cduMgmtSwitch
  | cabinet
  | cabinetBmc
  | cabinetPduController
  | cabinetPdu
  | cabinetPduOutlet
  | chassis
  | chassisBmc
  | cmmRectifier
  | computeModule
  | nodeBmc
  | nodeBmcNic
  | nodeEnclosure
  | node
  | nodeNic
  | nodeHsnNic
  | processor
  | memory
  | routerModule
  | routerBmc
  | hsnBoard
  | hsnConnector
  | mgmtSwitch
  | mgmtSwitchConnector
  | mgmtHlSwitchEnclosure
  | mgmtHlSwitch
  deriving DecidableEq

namespace Kind

/-- The letters of a kind's location names, outermost first. -/
def letters : Kind → List Char
  | system => ['s']
  | cdu => ['d']
  | cduMgmtSwitch => ['d', 'w']
  | cabinet => ['x']
  | cabinetBmc => ['x', 'b']
  | cabinetPduController => ['x', 'm']
  | cabinetPdu => ['x', 'm', 'p']
  | cabinetPduOutlet => ['x', 'm', 'p', 'j']
  | chassis => ['x', 'c']
  | chassisBmc => ['x', 'c', 'b']
  | cmmRectifier => ['x', 'c', 't']
  | computeModule => ['x', 'c', 's']
  | nodeBmc => ['x', 'c', 's', 'b']
  | nodeBmcNic => ['x', 'c', 's', 'b', 'i']
  | nodeEnclosure => ['x', 'c', 's', 'e']
  | node => ['x', 'c', 's', 'b', 'n']
  | nodeNic => ['x', 'c', 's', 'b', 'n', 'i']
  | nodeHsnNic => ['x', 'c', 's', 'b', 'n', 'h']
  | processor => ['x', 'c', 's', 'b', 'n', 'p']
  | memory => ['x', 'c', 's', 'b', 'n', 'd']
  | routerModule => ['x', 'c', 'r']
  | routerBmc => ['x', 'c', 'r', 'b']
  | hsnBoard => ['x', 'c', 'r', 'e']
  | hsnConnector => ['x', 'c', 'r', 'j']
  | mgmtSwitch => ['x', 'c', 'w']
  | mgmtSwitchConnector => ['x', 'c', 'w', 'j']
  | mgmtHlSwitchEnclosure => ['x', 'c', 'h']
  | mgmtHlSwitch => ['x', 'c', 'h', 's']

/-- The name of a kind in records and messages. -/
def name : Kind → String
  | system => "System"
  | cdu => "CDU"
  | cduMgmtSwitch => "CDUMgmtSwitch"
  | cabinet => "Cabinet"
  | cabinetBmc => "CabinetBMC"
  | cabinetPduController => "CabinetPDUController"
  | cabinetPdu => "CabinetPDU"
  | cabinetPduOutlet => "CabinetPDUOutlet"
  | chassis => "Chassis"
  | chassisBmc => "ChassisBMC"
  | cmmRectifier => "CMMRectifier"
  | computeModule => "ComputeModule"
  | nodeBmc => "NodeBMC"
  | nodeBmcNic => "NodeBMCNic"
  | nodeEnclosure => "NodeEnclosure"
  | node => "Node"
  | nodeNic => "NodeNic"
  | nodeHsnNic => "NodeHsnNic"
  | processor => "Processor"
  | memory => "Memory"
  | routerModule => "RouterModule"
  | routerBmc => "RouterBMC"
  | hsnBoard => "HSNBoard"
  | hsnConnector => "HSNConnector"
  | mgmtSwitch => "MgmtSwitch"
  | mgmtSwitchConnector => "MgmtSwitchConnector"
  | mgmtHlSwitchEnclosure => "MgmtHLSwitchEnclosure"
  | mgmtHlSwitch => "MgmtHLSwitch"

/-- Every kind, the root first, then floor units, then cabinets from the outside in. -/
def all : List Kind :=
  [system, cdu, cduMgmtSwitch, cabinet, cabinetBmc, cabinetPduController, cabinetPdu,
    cabinetPduOutlet, chassis, chassisBmc, cmmRectifier, computeModule, nodeBmc, nodeBmcNic,
    nodeEnclosure, node, nodeNic, nodeHsnNic, processor, memory, routerModule, routerBmc,
    hsnBoard, hsnConnector, mgmtSwitch, mgmtSwitchConnector, mgmtHlSwitchEnclosure,
    mgmtHlSwitch]

/-- The kind whose location names have these letters. -/
def ofLetters? (ls : List Char) : Option Kind :=
  all.find? fun kind => kind.letters = ls

/-- The kind of this name, in any mixture of ASCII capitals and small letters. -/
def ofName? (s : String) : Option Kind :=
  all.find? fun kind => kind.name.toLower = s.toLower

/-- The kind of the enclosing component. The system root has none. -/
def parent? : Kind → Option Kind
  | system => none
  | kind =>
    match kind.letters.dropLast with
    | [] => some system
    | outer => ofLetters? outer

/-- Letters lead back to their kind. -/
theorem ofLetters?_letters (kind : Kind) : ofLetters? kind.letters = some kind := by
  cases kind <;> rfl

/-- A kind found by its letters has them. -/
theorem letters_of_ofLetters? {ls : List Char} {kind : Kind} (h : ofLetters? ls = some kind) :
    kind.letters = ls := by
  simpa using List.find?_some h

end Kind

end SitePlan.Xname
