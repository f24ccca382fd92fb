import SitePlan.Proofs.Network.Growth

/-!
# Networks after any carving

Subnets are carved one at a time, for cabinets in a row, and after faults. Whatever the
calls are, a network only ever grows by new subnets that fit, and a call for one subnet
either adds it or leaves the network as it was.
-/

namespace SitePlan.Network

/-- A call that carves subnets from a network. -/
inductive CarveCall
  /-- A subnet of a size. -/
  | add (bits : Nat) (name : String) (vlan : UInt16)
  /-- A subnet on a chosen block. -/
  | addAt (cidr : Cidr) (name : String) (vlan : UInt16)
  /-- The largest subnet up to a size. -/
  | addBiggest (maxBits : Nat) (name : String) (vlan : UInt16)
  /-- A subnet for every accepted cabinet. -/
  | addCabinets (groups : List Cabinet.Group) (bits : Nat) (accepts : Cabinet.Filter)
      (overrides : Option Overrides)

namespace CarveCall

/-- The outcome of a call and the network that it leaves behind. A single subnet is added
in the last step, so a fault before it leaves the network as it was. -/
def run (n : Network) : CarveCall → Except AddressError Unit × Network
  | add bits name vlan => single n (n.addSubnet bits name vlan)
  | addAt cidr name vlan => single n (n.addSubnetAt cidr name vlan)
  | addBiggest maxBits name vlan => single n (n.addBiggestSubnet maxBits name vlan)
  | addCabinets groups bits accepts overrides =>
    n.addCabinetSubnets groups bits accepts overrides
where
  /-- The network after a subnet was to be added. -/
  single (n : Network) : Except AddressError (Subnet × Network) →
      Except AddressError Unit × Network
    | .ok (_, m) => (.ok (), m)
    | .error fault => (.error fault, n)

/-- The call adds one subnet at most. -/
def isSingle : CarveCall → Bool
  | addCabinets .. => false
  | _ => true

/-- The network after calls one after another, each on the network that the calls before
it left behind. -/
def runAll (n : Network) (calls : List CarveCall) : Network :=
  calls.foldl (fun n call => (call.run n).2) n

/-- A subnet that was carved is added to the network. -/
theorem grown_single {admits : Network → Subnet → Prop} {n : Network}
    {carved : Except AddressError Subnet} (hspec : ∀ s, carved = .ok s → admits n s) :
    n.Grown admits (run.single n (do let s ← carved; return (s, n.push s))).2 := by
  cases hcarve : carved with
  | error fault => exact .start
  | ok s => exact Grown.start.push (hspec s hcarve)

/-- Every call carves subnets one after another. -/
theorem grown_run (n : Network) (call : CarveCall) : n.Grown Carves (call.run n).2 := by
  cases call with
  | add bits name vlan => exact grown_single fun s hs => ⟨_, _, (carve_spec hs).1⟩
  | addAt cidr name vlan => exact grown_single fun s hs => ⟨_, _, (carveAt_spec hs).1⟩
  | addBiggest maxBits name vlan => exact grown_single fun s hs => ⟨_, _, carveBiggest_spec hs⟩
  | addCabinets groups bits accepts overrides =>
    exact grown_addCabinetSubnets n groups bits accepts overrides

/-- Any run of calls carves subnets one after another. -/
theorem grown_runAll (n : Network) (calls : List CarveCall) :
    n.Grown Carves (runAll n calls) := by
  induction calls generalizing n with
  | nil => exact .start
  | cons call rest ih => exact (grown_run n call).trans (ih _)

/-- A call for one subnet that fails leaves the network as it was. -/
theorem run_eq_of_error {n : Network} {call : CarveCall} {fault : AddressError}
    (hsingle : call.isSingle = true) (hfault : (call.run n).1 = .error fault) :
    (call.run n).2 = n := by
  have hkeep : ∀ carved : Except AddressError (Subnet × Network),
      (run.single n carved).1 = .error fault → (run.single n carved).2 = n := by
    rintro (_ | ⟨_, _⟩) hcarved
    · rfl
    · cases hcarved
  cases call with
  | add => exact hkeep _ hfault
  | addAt => exact hkeep _ hfault
  | addBiggest => exact hkeep _ hfault
  | addCabinets => cases hsingle

/-- Carving invariant: whatever is carved from a new network in whatever order, whether or
not the calls succeed, its subnets are aligned, inside it, apart and of different names.
On any network a call only adds subnets after the others, and a call for one subnet that
fails changes nothing. -/
theorem runAll_create_wellCarved (name fullName : String) (cidr : Cidr)
    (vlanRange : VlanRange) (mtu : UInt16) (fabric : Fabric) (calls : List CarveCall) :
    let made := runAll (create name fullName cidr vlanRange mtu fabric) calls
    made.WellCarved ∧ made.cidr = cidr ∧
      ∀ (n : Network) (call : CarveCall),
        (∃ added, (call.run n).2 = { n with subnets := n.subnets ++ added }) ∧
        (call.isSingle = true → ∀ fault, (call.run n).1 = .error fault →
          (call.run n).2 = n) := by
  intro made
  have hcarved : (create name fullName cidr vlanRange mtu fabric).Grown Carves made :=
    grown_runAll _ calls
  refine ⟨hcarved.wellCarved (wellCarved_of_subnets_eq_nil rfl), ?_, fun n call => ⟨?_, ?_⟩⟩
  · obtain ⟨added, hmade⟩ := hcarved.eq_append
    rw [hmade]
    rfl
  · exact (grown_run n call).eq_append
  · exact fun hsingle fault hfault => run_eq_of_error hsingle hfault

end CarveCall

end SitePlan.Network
