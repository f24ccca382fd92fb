import SitePlan.Proofs.Layout.CabinetSubnets
import SitePlan.Proofs.Subnet.Requests

/-!
# Blocks outside their network

Only a chosen block can lie outside the network from which it is to be carved, and layouts choose
no blocks but those that cabinets must get. So a network that cannot be built for such a block
was to be divided among cabinets, and one of these must get the block.
-/

namespace SitePlan

open Outcome

/-- The fault is not that a wanted block lies outside its network. -/
def AddressError.IsInRange : AddressError → Prop
  | .outOfRange .. => False
  | _ => True

/-! ### Reserving -/

namespace Subnet

/-- Reserving chooses no blocks. -/
theorem failsOnly_reserve (s : Subnet) (name comment : String) :
    FailsOnly AddressError.IsInRange (s.reserve name comment) := by
  unfold reserve
  split
  · exact failsOnly_ok _
  · split
    · exact failsOnly_ok _
    · exact failsOnly_error trivial

/-- Fixing an address chooses no blocks. -/
theorem failsOnly_pin (s : Subnet) (name comment : String) (octet : UInt8) :
    FailsOnly AddressError.IsInRange (s.pin name comment octet) := by
  unfold pin
  split
  · exact failsOnly_ok _
  · unfold reserveFree
    split
    · exact failsOnly_error trivial
    · exact failsOnly_ok _

/-- Answering requests one after another chooses no blocks. -/
theorem failsOnly_answerAll (s : Subnet) (requests : List Request) :
    FailsOnly AddressError.IsInRange (s.answerAll requests).1 := by
  induction requests generalizing s with
  | nil => exact failsOnly_ok ()
  | cons request rest ih =>
    unfold answerAll answer
    cases hreserve : s.reserve request.name request.comment with
    | error fault => exact failsOnly_error (failsOnly_reserve s _ _ _ hreserve)
    | ok reserved => exact ih _

/-- Setting addresses aside chooses no blocks. -/
theorem failsOnly_updateDhcpRange (s : Subnet) :
    FailsOnly AddressError.IsInRange s.updateDhcpRange := by
  unfold updateDhcpRange
  dsimp only
  split
  · exact failsOnly_ok _
  · exact failsOnly_error trivial

end Subnet

/-! ### Carving -/

namespace Network

/-- Carving a size chooses no block. -/
theorem failsOnly_carve (n : Network) (bits : Nat) (name : String) (vlan : UInt16) :
    FailsOnly AddressError.IsInRange (n.carve bits name vlan) := by
  refine (failsOnly_checkCanCarve trivial trivial).bind fun _ _ => ?_
  refine (failsOnly_checkBits trivial).bind fun _ _ => ?_
  split
  · exact failsOnly_ok _
  · exact failsOnly_error trivial

/-- Carving the largest subnet chooses no block. -/
theorem failsOnly_carveBiggest (n : Network) (maxBits : Nat) (name : String) (vlan : UInt16) :
    FailsOnly AddressError.IsInRange (n.carveBiggest maxBits name vlan) := by
  refine (failsOnly_checkCanCarve trivial trivial).bind fun _ _ => ?_
  refine (failsOnly_checkBits trivial).bind fun _ _ => ?_
  dsimp only
  split
  · exact n.failsOnly_carve _ name vlan
  · exact failsOnly_error trivial

/-- Where the fault is that a wanted block lies outside its network, the network is this one and
the block is one of those that are wanted from it. -/
def Misplaces (n : Network) (wanted : Cidr → Prop) : AddressError → Prop
  | .outOfRange block name cidr =>
    name = n.name ∧ cidr = n.cidr ∧
      ∃ pin, wanted pin ∧ block = pin.dropHost ∧ ¬pin.Within n.cidr
  | _ => True

/-- A wanted block is also one of more wanted blocks. -/
theorem Misplaces.mono {n : Network} {wanted more : Cidr → Prop} {fault : AddressError}
    (hfault : n.Misplaces wanted fault) (hmore : ∀ pin, wanted pin → more pin) :
    n.Misplaces more fault := by
  cases fault
  case outOfRange =>
    obtain ⟨hname, hcidr, pin, hpin, hblock, houtside⟩ := hfault
    exact ⟨hname, hcidr, pin, hmore pin hpin, hblock, houtside⟩
  all_goals trivial

/-- A chosen block can lie outside the network. -/
theorem failsOnly_carveAt (n : Network) (pin : Cidr) (name : String) (vlan : UInt16) :
    FailsOnly (n.Misplaces fun wanted => wanted = pin) (n.carveAt pin name vlan) := by
  refine (failsOnly_checkCanCarve trivial trivial).bind fun _ _ => ?_
  simp only [Bool.or_eq_true, decide_eq_true_eq]
  split
  · next houtside =>
    refine failsOnly_error ⟨rfl, rfl, pin, rfl, rfl, fun hwithin => ?_⟩
    have hends := Cidr.within_iff.mp (Cidr.within_dropHost_iff.mpr hwithin)
    omega
  · split
    · exact failsOnly_error trivial
    · exact failsOnly_ok _

/-- The block that a cabinet must get can lie outside the network. -/
theorem failsOnly_carveAround (n : Network) (bits : Nat) (overrides : Option Overrides)
    (pinned : List Stretch) (d : Cabinet.Detail) (vlan : UInt16) :
    FailsOnly (n.Misplaces (Pins overrides d)) (n.carveAround bits overrides pinned d vlan) := by
  unfold carveAround
  split
  · next pin hpin =>
    exact (n.failsOnly_carveAt pin _ vlan).mono fun _ hfault =>
      hfault.mono fun _ hwanted => hwanted ▸ hpin
  · refine (failsOnly_checkCanCarve trivial trivial).bind fun _ _ => ?_
    split
    · exact failsOnly_ok _
    · exact failsOnly_error trivial

/-- The subnet of a cabinet stops at a block outside the network only if the cabinet must get
it. -/
theorem failsOnly_carveCabinet (n : Network) (bits : Nat) (overrides : Option Overrides)
    (pinned : List Stretch) (place : Nat) (d : Cabinet.Detail) :
    FailsOnly (n.Misplaces (Pins overrides d)) (n.carveCabinet bits overrides pinned place d) :=
  (failsOnly_cabinetVlan trivial).bind fun vlan _ =>
    (n.failsOnly_carveAround bits overrides pinned d vlan).bind fun _ _ => failsOnly_ok _

/-- Cabinets that get their subnets one after another stop at a block outside the network only
if one of them must get it. -/
theorem failsOnly_carveCabinets (bits : Nat) (overrides : Option Overrides)
    (pinned : List Stretch) (n : Network) (place : Nat) (cabinets : List Cabinet.Detail) :
    FailsOnly (n.Misplaces fun pin => ∃ d ∈ cabinets, Pins overrides d pin)
      (carveCabinets bits overrides pinned n place cabinets).1 := by
  induction cabinets generalizing n place with
  | nil => exact failsOnly_ok ()
  | cons d rest ih =>
    unfold carveCabinets
    split
    · next fault hfault =>
      refine failsOnly_error ((n.failsOnly_carveCabinet _ _ _ _ _ fault hfault).mono ?_)
      exact fun pin hpin => ⟨d, List.mem_cons_self, hpin⟩
    · next s _ =>
      -- one subnet more changes neither the name nor the block of the network
      intro fault hfault
      have hlater : n.Misplaces (fun pin => ∃ d ∈ rest, Pins overrides d pin) fault := by
        have hpushed := ih (n.push s) (place + 1) fault hfault
        cases fault <;> exact hpushed
      exact hlater.mono fun pin ⟨d, hd, hpin⟩ => ⟨d, List.mem_cons_of_mem _ hd, hpin⟩

/-- A subnet of the network has the block that the cabinet must get, and the block lies in the
network. -/
def Honours (n : Network) (d : Cabinet.Detail) (pin : Cidr) : Prop :=
  ∃ s, n.lookup (cabinetSubnetName d) = .ok s ∧ s.cidr = pin.dropHost ∧ pin.Within n.cidr

/-- A block that a cabinet has stays its own while the network grows. -/
theorem Grown.honours {admits : Network → Subnet → Prop} {n m : Network} {d : Cabinet.Detail}
    {pin : Cidr} (hnm : n.Grown admits m) (hpin : n.Honours d pin) : m.Honours d pin := by
  obtain ⟨s, hs, hblock, hwithin⟩ := hpin
  refine ⟨s, hnm.lookup hs, hblock, ?_⟩
  obtain ⟨added, rfl⟩ := hnm.eq_append
  exact hwithin

/-- The subnet of a cabinet has the block that the cabinet must get. -/
theorem honours_of_carveCabinet {n : Network} {bits : Nat} {overrides : Option Overrides}
    {pinned : List Stretch} {place : Nat} {d : Cabinet.Detail} {s : Subnet} {pin : Cidr}
    (hpin : Pins overrides d pin)
    (hcarve : n.carveCabinet bits overrides pinned place d = .ok s) :
    (n.push s).Honours d pin := by
  obtain ⟨vlan, _, hcarve⟩ := bind_eq_ok.mp hcarve
  obtain ⟨made, hmade, hcarve⟩ := bind_eq_ok.mp hcarve
  obtain rfl := pure_eq_ok.mp hcarve
  rw [carveAround, show overrides.bind (·.subnet? d) = some pin from hpin] at hmade
  obtain ⟨hcarved, hblock⟩ := carveAt_spec hmade
  refine ⟨_, lookup_push hcarved.name_eq hcarved.isNew, hblock, ?_⟩
  exact Cidr.within_dropHost_iff.mp (hblock ▸ hcarved.fits.within)

/-- Every cabinet in turn gets the block that it must get. -/
theorem honours_of_carveCabinets {bits : Nat} {overrides : Option Overrides}
    {pinned : List Stretch} {n m : Network} {place : Nat} {cabinets : List Cabinet.Detail}
    (hok : carveCabinets bits overrides pinned n place cabinets = (.ok (), m)) :
    ∀ d ∈ cabinets, ∀ pin, Pins overrides d pin → m.Honours d pin := by
  induction cabinets generalizing n place with
  | nil => simp
  | cons d rest ih =>
    unfold carveCabinets at hok
    split at hok
    · cases hok
    next s hcarve =>
    have hlater : (n.push s).Grown Carves m := by
      simpa only [hok] using
        grown_carveCabinets bits overrides pinned (n.push s) (place + 1) rest
    exact List.forall_mem_cons.mpr
      ⟨fun pin hpin => hlater.honours (honours_of_carveCabinet hpin hcarve), ih hok⟩

/-- A network that is divided among cabinets stops at a block outside it only if one of these
must get it. -/
theorem failsOnly_addCabinetSubnets (n : Network) (groups : List Cabinet.Group) (bits : Nat)
    (accepts : Cabinet.Filter) (overrides : Option Overrides) :
    FailsOnly (n.Misplaces fun pin =>
        ∃ d ∈ Cabinet.select accepts groups, Pins overrides d pin)
      (n.addCabinetSubnets groups bits accepts overrides).1 := by
  unfold addCabinetSubnets
  split
  · exact failsOnly_error trivial
  · split
    · next fault hfault =>
      exact failsOnly_error (failsOnly_checkBits trivial fault hfault)
    · intro fault hfault
      refine (failsOnly_carveCabinets _ _ _ _ _ _ fault hfault).mono ?_
      exact fun pin ⟨d, hd, hpin⟩ => ⟨d, (sortBy_perm _ _).mem_iff.mp hd, hpin⟩

/-- A network that is divided among cabinets gives each of them the block that it must get. -/
theorem honours_of_addCabinetSubnets {n m : Network} {groups : List Cabinet.Group} {bits : Nat}
    {accepts : Cabinet.Filter} {overrides : Option Overrides}
    (hok : n.addCabinetSubnets groups bits accepts overrides = (.ok (), m)) :
    ∀ d ∈ Cabinet.select accepts groups, ∀ pin, Pins overrides d pin → m.Honours d pin := by
  unfold addCabinetSubnets at hok
  split at hok
  · cases hok
  split at hok
  · cases hok
  · exact fun d hd => honours_of_carveCabinets hok d ((sortBy_perm _ _).mem_iff.mpr hd)

end Network

/-! ### Layouts -/

namespace Layout

open Network

/-- A run that must not stop half-way stops at its own faults. -/
theorem failsOnly_complete {P : AddressError → Prop} {run : Except AddressError Unit × Subnet}
    (hrun : FailsOnly P run.1) : FailsOnly P (complete run) := by
  obtain ⟨_ | _, s⟩ := run
  · exact failsOnly_error (hrun _ rfl)
  · exact failsOnly_ok s

/-- Fixing addresses chooses no blocks. -/
theorem failsOnly_pinAll (s : Subnet) (pins : List Pin) :
    FailsOnly AddressError.IsInRange (pinAll s pins) := by
  induction pins generalizing s with
  | nil => exact failsOnly_ok s
  | cons p rest ih =>
    unfold pinAll
    split
    · next hfault => exact failsOnly_error (Subnet.failsOnly_pin s _ _ _ _ hfault)
    · exact ih _

/-- The first stage chooses no block. -/
theorem failsOnly_addBootstrap (l : Layout) (inputs : Inputs) (n : Network) :
    FailsOnly AddressError.IsInRange (l.addBootstrap inputs n) := by
  unfold addBootstrap
  split
  · exact failsOnly_ok n
  · refine (n.failsOnly_carve _ _ _).bind fun s _ => (failsOnly_pinAll _ _).bind fun s _ => ?_
    have hnodes : FailsOnly AddressError.IsInRange (l.addressNodes inputs n.name s) := by
      unfold addressNodes
      split
      · rw [Subnet.reserveNodes_eq_answerAll]
        exact failsOnly_complete (s.failsOnly_answerAll _)
      · exact failsOnly_ok s
    exact hnodes.bind fun s _ => s.failsOnly_updateDhcpRange.bind fun _ _ => failsOnly_ok _

/-- The stage of the switches chooses no block. -/
theorem failsOnly_addHardware (l : Layout) (inputs : Inputs) (n : Network) :
    FailsOnly AddressError.IsInRange (l.addHardware inputs n) := by
  unfold addHardware
  split
  · exact failsOnly_ok n
  · refine (n.failsOnly_carve _ _ _).bind fun s _ => ?_
    dsimp only
    rw [Subnet.reserveSwitches_eq_answerAll]
    exact (failsOnly_complete (Subnet.failsOnly_answerAll _ _)).bind fun _ _ => failsOnly_ok _

/-- The stage of the user access instances chooses no block. -/
theorem failsOnly_addUai (l : Layout) (n : Network) :
    FailsOnly AddressError.IsInRange (l.addUai n) := by
  unfold addUai
  split
  · exact failsOnly_ok n
  · refine (n.failsOnly_carve _ _ _).bind fun s _ => ?_
    dsimp only
    rw [Subnet.reserveAll_eq_answerAll]
    refine (failsOnly_complete (Subnet.failsOnly_answerAll _ _)).bind fun s _ => ?_
    exact s.failsOnly_updateDhcpRange.bind fun _ _ => failsOnly_ok _

/-- The stage of the pools chooses no block. -/
theorem failsOnly_addPools (l : Layout) (n : Network) :
    FailsOnly AddressError.IsInRange (l.addPools n) := by
  unfold addPools
  split
  · exact (n.failsOnly_carve _ _ _).bind fun _ _ =>
      (failsOnly_carve _ _ _ _).bind fun _ _ => failsOnly_ok _
  · exact failsOnly_ok n

/-- The stage of the subnet that fills the network chooses no block. -/
theorem failsOnly_addBase (l : Layout) (n : Network) :
    FailsOnly AddressError.IsInRange (l.addBase n) := by
  unfold addBase
  split
  · exact failsOnly_ok n
  · exact (n.failsOnly_carveBiggest _ _ _).bind fun _ _ => failsOnly_ok _

/-- A network that is not divided among cabinets has all its blocks in range. -/
theorem failsOnly_build_of_eq_none {l : Layout} (hnone : l.cabinetSubdivision = none)
    (inputs : Inputs) : FailsOnly AddressError.IsInRange (l.build inputs) := by
  have hcabinets : ∀ n, FailsOnly AddressError.IsInRange (l.addCabinets inputs n) := by
    intro n
    rw [addCabinets, hnone]
    exact failsOnly_ok n
  have hcarve : FailsOnly AddressError.IsInRange (l.carveAll inputs) :=
    (l.failsOnly_addBootstrap inputs _).bind fun _ _ =>
      (l.failsOnly_addHardware inputs _).bind fun _ _ => (l.failsOnly_addUai _).bind fun _ _ =>
        (l.failsOnly_addPools _).bind fun _ _ => (l.failsOnly_addBase _).bind fun n _ =>
          hcabinets n
  exact hcarve.bind fun _ _ => failsOnly_ok _

section

variable {template : Network} {accepts : Cabinet.Filter} {overrides : Overrides}
  {options : Options} {inputs : Inputs}

/-- A network that is divided among cabinets cannot be built for a block outside it only if one
of these must get the block. -/
theorem failsOnly_build_perCabinet :
    FailsOnly (template.Misplaces fun pin =>
        ∃ d ∈ Cabinet.select accepts inputs.cabinets, overrides.subnet? d = some pin)
      ((perCabinet template accepts overrides options).build inputs) := by
  rw [build_perCabinet]
  intro fault hfault
  split at hfault
  · cases hfault
  · next hadded =>
    cases hfault
    exact failsOnly_addCabinetSubnets _ _ _ _ _ fault (congrArg Prod.fst hadded)

/-- A network that was divided among cabinets gives each of them the block that it must get. -/
theorem honours_of_build_perCabinet {n : Network}
    (hbuild : (perCabinet template accepts overrides options).build inputs = .ok n) :
    n.cidr = template.cidr ∧ ∀ d ∈ Cabinet.select accepts inputs.cabinets, ∀ pin,
      overrides.subnet? d = some pin → n.Honours d pin := by
  rw [build_perCabinet] at hbuild
  split at hbuild
  · next m hadded =>
    cases hbuild
    have hgrown : template.Grown Carves n := by
      simpa only [hadded] using grown_addCabinetSubnets template inputs.cabinets
        options.cabinetBits accepts (some overrides)
    obtain ⟨added, hn⟩ := hgrown.eq_append
    exact ⟨by rw [hn], honours_of_addCabinetSubnets hadded⟩
  · cases hbuild

end

/-- Networks that are built one after another stop at the faults of one of them. -/
theorem failsOnly_buildInto {P : AddressError → Prop} {inputs : Inputs} {layouts : List Layout}
    (hall : ∀ l ∈ layouts, FailsOnly P (l.build inputs)) (networks : SortedMap Network) :
    FailsOnly P (buildInto inputs networks layouts) := by
  induction layouts generalizing networks with
  | nil => exact failsOnly_ok networks
  | cons l rest ih =>
    rw [List.forall_mem_cons] at hall
    unfold buildInto
    split
    · next fault hfault => exact failsOnly_error (hall.1 fault hfault)
    · exact ih hall.2 _

end Layout

end SitePlan
