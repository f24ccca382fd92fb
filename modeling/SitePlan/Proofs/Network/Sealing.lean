import SitePlan.Proofs.Network.CarvingRuns

/-!
# Sealed networks

Applying the supernet widens the subnets of an installation and seals their network. From
then on subnets may still be looked up and changed, but none is carved: whatever comes in
between, every later call fails in its first step and leaves the network as it was.
-/

namespace SitePlan

/-- The same subnet under the mask and the gateway of the block around it. -/
structure Subnet.TakesOver (s : Subnet) (supernet : Cidr) (t : Subnet) : Prop where
  /-- The block is the one with the same address and the mask of the block around it. -/
  cidr_eq : Cidr.ofNat? s.cidr.address.value supernet.bits = some t.cidr
  /-- The gateway follows the first address of the block around it. If that is the last address
  of all, the gateway has this address. -/
  gateway_eq : t.gateway.value = min (supernet.network.value + 1) 0xFFFFFFFF
  /-- Everything else stays. -/
  rest_eq : t = { s with cidr := t.cidr, gateway := t.gateway }

namespace Subnet

/-- There is a block with the address of the subnet and the mask of the block around it, so a
subnet can always be widened. -/
theorem takesOver_widen (s : Subnet) (supernet : Cidr) :
    s.TakesOver supernet (s.widen supernet) where
  cidr_eq := dif_pos ⟨s.cidr.address.value_lt, supernet.bits_le⟩
  gateway_eq := rfl
  rest_eq := rfl

/-- A subnet is widened once. -/
theorem widen_widen (s : Subnet) (supernet : Cidr) :
    (s.widen supernet).widen supernet = s.widen supernet := rfl

end Subnet

namespace Network

/-- The subnets that are widened. -/
def widenedSubnets : List String :=
  ["bootstrap_dhcp", "network_hardware", "can_metallb_static_pool", "can_metallb_address_pool"]

/-- The subnets of an installation are widened in their places, and the others stay. -/
theorem forall₂_applySupernet (n : Network) :
    List.Forall₂ (fun s t => if s.name ∈ widenedSubnets then s.TakesOver n.cidr t else t = s)
      n.subnets n.applySupernet.subnets := by
  refine List.forall₂_map_right_iff.mpr (List.forall₂_same.mpr fun s _ => ?_)
  by_cases hname : s.name ∈ widenedSubnets
  · have hwidened : s.name ∈ supernetSubnets := hname
    rw [if_pos hname, if_pos hwidened]
    exact s.takesOver_widen n.cidr
  · have hother : s.name ∉ supernetSubnets := hname
    rw [if_neg hname, if_neg hother]

/-- The supernet is applied once. -/
theorem applySupernet_applySupernet (n : Network) :
    n.applySupernet.applySupernet = n.applySupernet := by
  have hagain : n.applySupernet.applySupernet.subnets = n.applySupernet.subnets := by
    simp only [applySupernet, List.map_map]
    refine List.map_congr_left fun s _ => ?_
    by_cases hname : s.name ∈ supernetSubnets
    · have hkept : (s.widen n.cidr).name ∈ supernetSubnets := hname
      simp only [Function.comp_apply, if_pos hname, if_pos hkept, Subnet.widen_widen]
    · simp only [Function.comp_apply, if_neg hname]
  exact congrArg (fun subnets => { n with subnets := subnets, isSealed := true }) hagain

/-- A sealed network refuses every call for subnets, whatever else is wrong with the call. -/
theorem CarveCall.run_of_isSealed {n : Network} (hsealed : n.isSealed = true)
    (call : CarveCall) : call.run n = (.error (.isSealed n.name), n) := by
  have hname := checkCanCarve_of_isSealed hsealed
  cases call with
  | add bits name vlan =>
    have hcarve : n.carve bits name vlan = .error (.isSealed n.name) := by
      rw [carve, hname]
      rfl
    rw [run, addSubnet, hcarve]
    rfl
  | addAt cidr name vlan =>
    have hcarve : n.carveAt cidr name vlan = .error (.isSealed n.name) := by
      rw [carveAt, hname]
      rfl
    rw [run, addSubnetAt, hcarve]
    rfl
  | addBiggest maxBits name vlan =>
    have hcarve : n.carveBiggest maxBits name vlan = .error (.isSealed n.name) := by
      rw [carveBiggest, hname]
      rfl
    rw [run, addBiggestSubnet, hcarve]
    rfl
  | addCabinets groups bits accepts overrides => exact if_pos hsealed

/-- What is done to a network after it was made. -/
inductive Operation
  /-- Subnets are carved. -/
  | carve (call : CarveCall)
  /-- The supernet is applied. -/
  | supernet
  /-- The subnet of a name is looked up and changed. -/
  | edit (name : String) (change : Subnet → Subnet)

namespace Operation

/-- The outcome of an operation and the network that it leaves behind. -/
def run (n : Network) : Operation → Except AddressError Unit × Network
  | carve call => call.run n
  | supernet => (.ok (), n.applySupernet)
  | edit name change =>
    match n.lookup name with
    | .ok s => (.ok (), n.replaceSubnet name (change s))
    | .error fault => (.error fault, n)

/-- The network after operations one after another, each on the network that those before it
left behind. -/
def runAll (n : Network) (operations : List Operation) : Network :=
  operations.foldl (fun n operation => (operation.run n).2) n

/-- An operation leaves the name of a network alone and opens no sealed one. -/
theorem name_and_isSealed_run (n : Network) (operation : Operation) :
    (operation.run n).2.name = n.name ∧
      (n.isSealed = true → (operation.run n).2.isSealed = true) := by
  cases operation with
  | carve call =>
    obtain ⟨added, hmade⟩ := (call.grown_run n).eq_append
    rw [run, hmade]
    exact ⟨rfl, id⟩
  | supernet => exact ⟨rfl, fun _ => rfl⟩
  | edit name change =>
    rw [run]
    split <;> exact ⟨rfl, id⟩

/-- Operations leave the name of a network alone and open no sealed one. -/
theorem name_and_isSealed_runAll (n : Network) (operations : List Operation) :
    (runAll n operations).name = n.name ∧
      (n.isSealed = true → (runAll n operations).isSealed = true) := by
  induction operations generalizing n with
  | nil => exact ⟨rfl, id⟩
  | cons operation rest ih =>
    obtain ⟨hname, hsealed⟩ := name_and_isSealed_run n operation
    obtain ⟨hrest, hkept⟩ := ih (operation.run n).2
    exact ⟨hrest.trans hname, fun h => hkept (hsealed h)⟩

/-- Sealing is final: after whatever operations, the supernet can be applied. It seals the
network, gives the subnets of an installation the mask of the network and the gateway after its
first address, and changes nothing else. Applying it once more changes nothing. And whatever
operations follow, successful or not, every call for subnets after them fails because of the
seal and leaves the network as it was. -/
theorem sealing_isFinal (start : Network) (before : List Operation) :
    let n := runAll start before
    let m := (supernet.run n).2
    (supernet.run n).1 = .ok () ∧
    m = { n with subnets := m.subnets, isSealed := true } ∧
    List.Forall₂ (fun s t => if s.name ∈ widenedSubnets then s.TakesOver n.cidr t else t = s)
      n.subnets m.subnets ∧
    supernet.run m = (.ok (), m) ∧
    ∀ (later : List Operation) (call : CarveCall),
      let k := runAll m later
      (carve call).run k = (.error (.isSealed n.name), k) := by
  intro n m
  refine ⟨rfl, rfl, forall₂_applySupernet n, ?_, fun later call => ?_⟩
  · exact congrArg (Prod.mk _) (applySupernet_applySupernet n)
  · intro k
    obtain ⟨hname, hsealed⟩ := name_and_isSealed_runAll m later
    have hrefused := CarveCall.run_of_isSealed (hsealed rfl) call
    rw [hname] at hrefused
    exact hrefused

end Operation

end Network

end SitePlan
