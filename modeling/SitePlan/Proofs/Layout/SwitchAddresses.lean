import SitePlan.Proofs.Layout.Bootstrap
import SitePlan.Proofs.Subnet.SwitchReservations

/-!
# Addresses of switches

A network with a subnet for switches keeps an address there for every switch and for so many
switches to come. The names of these addresses are counted role by role, and they are the host
names that the switches were given one after another.
-/

namespace SitePlan.Layout

open Outcome Network

/-- A network whose layout has a subnet for switches has it with what was reserved there for the
switches and for those to come. -/
theorem lookup_hardware {l : Layout} {inputs : Inputs} {n : Network}
    (hbits : l.hardwareBits ≠ none) (hbuild : l.build inputs = .ok n) :
    ∃ fresh reserved s : Subnet, fresh.reservations = [] ∧
      fresh.reserveSwitches (.ofSwitches inputs.switches) l.spareSwitches = (.ok (), reserved) ∧
      n.lookup "network_hardware" = .ok s ∧ s.reservations = reserved.reservations := by
  obtain ⟨m, hcarve, rfl⟩ := build_eq_ok.mp hbuild
  obtain ⟨_, _, _, hhardware, hrest⟩ := exists_addHardware_of_carveAll hcarve
  obtain ⟨hnone, _⟩ | ⟨fresh, reserved, hcarved, hreserve, rfl⟩ := addHardware_cases hhardware
  · exact absurd hnone hbits
  have hempty : fresh.reservations = [] := by rw [hcarved.created]; rfl
  have hfrom : fresh.ReservedFrom reserved := by
    simpa only [hreserve] using Subnet.reservedFrom_reserveSwitches fresh
      (.ofSwitches inputs.switches) l.spareSwitches
  have hname : reserved.name = "network_hardware" := by
    rw [hfrom.eq_reservations]
    exact hcarved.name_eq
  have hfound := hrest.lookup (lookup_push hname hcarved.isNew)
  split
  · obtain ⟨s, hs, hkept⟩ := lookup_applySupernet hfound
    exact ⟨fresh, reserved, s, hempty, hreserve, hs, hkept⟩
  · exact ⟨fresh, reserved, reserved, hempty, hreserve, hfound, rfl⟩

/-- One name for every switch: whatever the switches and their roles, once they are named one
after another no two names are the same, and in each network with a subnet for switches that can
be built every switch has its reservation there under its own name and with its location. All
other reservations are those for the switches to come. -/
theorem switchNames_agree (switches : List Switch) {l : Layout} {inputs : Inputs} {n : Network}
    (hbits : l.hardwareBits ≠ none) (hinputs : inputs.switches = Switch.assignNames switches)
    (hbuild : l.build inputs = .ok n) :
    ((Switch.assignNames switches).map Switch.hostName).Nodup ∧
      ∃ s, n.lookup "network_hardware" = .ok s ∧
        s.labels.Perm ((Switch.assignNames switches).map Switch.label ++
          (List.range' 1 l.spareSwitches).map fun k =>
            ("sw-spare-" ++ Text.padText 3 k, "reserved for a future management switch")) := by
  refine ⟨Switch.nodup_hostNames_assignNamesAfter [] switches, ?_⟩
  obtain ⟨fresh, reserved, s, hempty, hreserve, hlookup, hkept⟩ := lookup_hardware hbits hbuild
  rw [hinputs, Subnet.reserveSwitches_eq_reserveAll] at hreserve
  have hnothing : fresh.labels = [] := by rw [Subnet.labels, hempty, List.map_nil]
  have hlabels := Subnet.labels_reserveAll (by simp [Subnet.reservedNames, hempty])
    (Subnet.nodup_requests_assignNames switches l.spareSwitches) hreserve
  rw [hnothing, List.nil_append] at hlabels
  refine ⟨s, hlookup, ?_⟩
  rw [Subnet.labels, hkept, ← Subnet.labels, hlabels]
  exact (Switch.perm_requests_assignNames switches).append_right _

/-- A switch that has no host name yet. -/
def unnamedSwitch (xname : String) (role : Switch.Role) : Switch where
  xname := xname
  hostName := ""
  role := role
  brand := .aruba
  model := ""
  managementAddress := none

/-- Switches of several roles in no order of roles. -/
def mixedSwitches : List Switch :=
  [unnamedSwitch "x3000c0w31" .leafBmc, unnamedSwitch "x3000c0h33s1" .spine,
    unnamedSwitch "d0w1" .cdu, unnamedSwitch "x3000c0h34s1" .spine,
    unnamedSwitch "x3000c0w32" .leafBmc]

/-- A network for these switches and two more, widened into a supernet. -/
def mixedLayout : Layout := management hmn { supernet := true, spareSwitches := 2 }

/-- The switches of several roles have their reservations under their names. -/
theorem switchNames_agree_mixedSwitches :
    ∃ n, mixedLayout.build { switches := Switch.assignNames mixedSwitches } = .ok n ∧
      ((Switch.assignNames mixedSwitches).map Switch.hostName).Nodup ∧
      ∃ s, n.lookup "network_hardware" = .ok s ∧
        s.labels.Perm ((Switch.assignNames mixedSwitches).map Switch.label ++
          (List.range' 1 2).map fun k =>
            ("sw-spare-" ++ Text.padText 3 k, "reserved for a future management switch")) := by
  obtain ⟨n, hbuild⟩ : ∃ n,
      mixedLayout.build { switches := Switch.assignNames mixedSwitches } = .ok n :=
    exists_of_isOk (by decide +kernel)
  exact ⟨n, hbuild, switchNames_agree mixedSwitches (by decide) rfl hbuild⟩

example : (Switch.assignNames mixedSwitches).map Switch.hostName =
    ["sw-leaf-bmc-001", "sw-spine-001", "sw-cdu-001", "sw-spine-002", "sw-leaf-bmc-002"] := by
  decide +kernel

end SitePlan.Layout
