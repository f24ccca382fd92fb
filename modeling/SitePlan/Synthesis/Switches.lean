import SitePlan.Synthesis.Basic
import SitePlan.Xname.Canonical

/-!
# Records of management switches

Every listed switch has a record. A switch that stands in a cabinet needs that cabinet to
be declared; a switch of a coolant distribution unit stands on the floor.
-/

namespace SitePlan.Synthesis

open Hardware

/-- The class of the switch at a location. -/
def switchClass (cabinetIds : List UInt32) (xname : String) : Except Error Hardware.Class :=
  if Xname.kind? xname = some .cduMgmtSwitch then .ok .mountain
  else
    match Xname.ordinals xname with
    | .error fault => .error (.location fault)
    | .ok ordinals =>
      let cabinet := ordinals.headD 0
      if cabinetIds.contains cabinet then .ok .river
      else .error (.missingCabinet xname (Xname.Component.cabinet cabinet).toXname)

/-- References to the credentials of the switch at a location. -/
def switchCredentials (xname : String) : SnmpCredentials where
  username := vaultPath xname
  authPassword := vaultPath xname
  authProtocol := "MD5"
  privPassword := vaultPath xname
  privProtocol := "DES"

/-- What the record of a switch at a location says. Only controllers' switches are asked
for the addresses they have seen. -/
def switchProperties (s : Switch) (xname : String) : SwitchProperties where
  ip4Address := s.managementAddress.map Ipv4.render
  brand := s.brand.name
  model := if s.model = "" then none else some s.model
  snmp := if s.role = .leafBmc then some (switchCredentials xname) else none
  aliases := if s.hostName = "" then [] else [s.hostName]

/-- The record of a switch. -/
def switchRecord (cabinetIds : List UInt32) (s : Switch) : Except Error Record := do
  s.validate.mapError .mgmtSwitch
  let xname := Xname.normalize s.xname
  let hardwareClass ← switchClass cabinetIds xname
  (Record.create xname hardwareClass
    (some (.mgmtSwitch (switchProperties s xname)))).mapError .hardware

/-- The records of all switches, in the order of the list. -/
def switchHardware (inputs : Inputs) : Except Error (List Record) :=
  inputs.switches.mapM (switchRecord (inputs.cabinets.flatMap Cabinet.Group.cabinetIds))

end SitePlan.Synthesis
