import SitePlan.Xname.Kind

/-!
# Record tags

The layout service tags each hardware record with a fixed word. Only some kinds of
components have records, and each of these has a tag of its own.
-/

namespace SitePlan.Hardware

/-- The tag of a hardware record. -/
inductive Tag
  | cabinet
  | cabinetPduController
  | chassis
  | chassisBmc
  | computeModule
  | nodeBmc
  | node
  | routerModule
  | routerBmc
  | mgmtSwitch
  | mgmtSwitchConnector
  | mgmtHlSwitch
  | cdu
  | cduMgmtSwitch
  deriving DecidableEq

namespace Tag

/-- The word of a tag. -/
def word : Tag → String
  | cabinet => "comptype_cabinet"
  | cabinetPduController => "comptype_cab_pdu_controller"
  | chassis => "comptype_chassis"
  | chassisBmc => "comptype_chassis_bmc"
  | computeModule => "comptype_compmod"
  | nodeBmc => "comptype_ncard"
  | node => "comptype_node"
  | routerModule => "comptype_rtrmod"
  | routerBmc => "comptype_rtr_bmc"
  | mgmtSwitch => "comptype_mgmt_switch"
  | mgmtSwitchConnector => "comptype_mgmt_switch_connector"
  | mgmtHlSwitch => "comptype_hl_switch"
  | cdu => "comptype_cdu"
  | cduMgmtSwitch => "comptype_cdu_mgmt_switch"

/-- Every tag. -/
def all : List Tag :=
  [cabinet, cabinetPduController, chassis, chassisBmc, computeModule, nodeBmc, node,
    routerModule, routerBmc, mgmtSwitch, mgmtSwitchConnector, mgmtHlSwitch, cdu,
    cduMgmtSwitch]

/-- The tag that a word is. -/
def ofWord? (s : String) : Option Tag := all.find? fun tag => tag.word = s

/-- The tag of the records for a kind of component, if there are any. -/
def ofKind? : Xname.Kind → Option Tag
  | .cabinet => some cabinet
  | .cabinetPduController => some cabinetPduController
  | .chassis => some chassis
  | .chassisBmc => some chassisBmc
  | .computeModule => some computeModule
  | .nodeBmc => some nodeBmc
  | .node => some node
  | .routerModule => some routerModule
  | .routerBmc => some routerBmc
  | .mgmtSwitch => some mgmtSwitch
  | .mgmtSwitchConnector => some mgmtSwitchConnector
  | .mgmtHlSwitch => some mgmtHlSwitch
  | .cdu => some cdu
  | .cduMgmtSwitch => some cduMgmtSwitch
  | _ => none

/-- Words lead back to their tag. -/
theorem ofWord?_word (tag : Tag) : ofWord? tag.word = some tag := by
  cases tag <;> rfl

end Tag

end SitePlan.Hardware
