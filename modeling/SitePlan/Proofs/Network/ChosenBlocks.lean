import SitePlan.Proofs.Network.CarvingRuns

/-!
# Blocks that are chosen

A block that is chosen for a new name is carved exactly if it lies in the network and has no
address of a subnet. A block that the network finds by itself is such a block, so choosing it
gives the same subnet. Whatever was carved can therefore be carved again from the list of
the subnets, one after another, by choosing their blocks.
-/

namespace SitePlan.Network

open Outcome

/-- The network gives the subnet when the subnet's block is chosen for it. -/
def GivesChosen (n : Network) (s : Subnet) : Prop :=
  n.addSubnetAt s.cidr s.name s.vlan = .ok (s, n.push s)

/-- A subnet is added after it was carved. -/
theorem add_eq_ok {n m : Network} {s : Subnet} {carved : Except AddressError Subnet} :
    (do let s ← carved; return (s, n.push s)) = Except.ok (s, m) ↔
      carved = .ok s ∧ m = n.push s := by
  constructor
  · intro hadd
    obtain ⟨t, hcarved, hpure⟩ := bind_eq_ok.mp hadd
    obtain ⟨rfl, rfl⟩ := Prod.mk.inj (pure_eq_ok.mp hpure)
    exact ⟨hcarved, rfl⟩
  · rintro ⟨rfl, rfl⟩
    rfl

/-- A chosen block is given to a new name exactly if it lies in the network and has no address
of a subnet. -/
theorem exists_addSubnetAt_iff {n : Network} {name : String}
    (hcan : n.checkCanCarve name = .ok ()) (c : Cidr) (vlan : UInt16) :
    (∃ s m, n.addSubnetAt c name vlan = .ok (s, m)) ↔
      c.Within n.cidr ∧ ∀ s ∈ n.subnets, c.Disjoint s.cidr := by
  rw [← fits_dropHost_iff]
  constructor
  · rintro ⟨s, m, hadd⟩
    exact (carveAt_eq_ok.mp (add_eq_ok.mp hadd).1).2.1
  · intro hfits
    exact ⟨_, _, add_eq_ok.mpr ⟨carveAt_eq_ok.mpr ⟨hcan, hfits, rfl⟩, rfl⟩⟩

/-- A subnet that is made for a block that fits is given when this block is chosen. -/
theorem givesChosen_create {n : Network} {name : String} (hcan : n.checkCanCarve name = .ok ())
    {c : Cidr} (hfits : n.Fits c) (vlan : UInt16) : n.GivesChosen (.create name c vlan) := by
  have hblock : c.dropHost = c := hfits.aligned.dropHost_eq
  refine add_eq_ok.mpr ⟨carveAt_eq_ok.mpr ⟨hcan, ?_, ?_⟩, rfl⟩
  · exact hblock.symm ▸ hfits
  · exact congrArg (Subnet.create name · vlan) hblock.symm

/-- A chosen block gives the same subnet when it is chosen again. -/
theorem givesChosen_of_carveAt {n : Network} {c : Cidr} {name : String} {vlan : UInt16}
    {s : Subnet} (hcarve : n.carveAt c name vlan = .ok s) : n.GivesChosen s := by
  obtain ⟨hcan, hfits, rfl⟩ := carveAt_eq_ok.mp hcarve
  exact givesChosen_create hcan hfits vlan

/-- The free block that a network finds gives the same subnet when it is chosen. -/
theorem givesChosen_of_carve {n : Network} {bits : Nat} {name : String} {vlan : UInt16}
    {s : Subnet} (hcarve : n.carve bits name vlan = .ok s) : n.GivesChosen s := by
  obtain ⟨hcan, _, c, hfree, rfl⟩ := carve_eq_ok.mp hcarve
  exact givesChosen_create hcan (freeBlock?_spec hfree).1 vlan

/-- The largest free block that a network finds gives the same subnet when it is chosen. -/
theorem givesChosen_of_carveBiggest {n : Network} {maxBits : Nat} {name : String}
    {vlan : UInt16} {s : Subnet} (hcarve : n.carveBiggest maxBits name vlan = .ok s) :
    n.GivesChosen s := by
  obtain ⟨_, hsize⟩ := exists_carve_of_carveBiggest hcarve
  exact givesChosen_of_carve hsize

/-- Choosing the block of a carved subnet gives what carving gave. -/
theorem addSubnetAt_of_carved {n m : Network} {name : String} {vlan : UInt16} {s : Subnet}
    {carved : Except AddressError Subnet}
    (hadd : (do let s ← carved; return (s, n.push s)) = Except.ok (s, m))
    (hspec : ∀ s, carved = .ok s → n.Carved name vlan s ∧ n.GivesChosen s) :
    n.addSubnetAt s.cidr name vlan = .ok (s, m) := by
  obtain ⟨hcarved, rfl⟩ := add_eq_ok.mp hadd
  obtain ⟨hnew, hchosen⟩ := hspec s hcarved
  have hname : s.name = name := hnew.name_eq
  have hvlan : s.vlan = vlan := congrArg Subnet.vlan hnew.created
  rw [GivesChosen, hname, hvlan] at hchosen
  exact hchosen

namespace CarveCall

/-- The call that chooses the block of a subnet for it. -/
def again (s : Subnet) : CarveCall := addAt s.cidr s.name s.vlan

/-- Where a subnet is given when its block is chosen, the call for it adds it. -/
theorem run_again {n : Network} {s : Subnet} (hgiven : n.GivesChosen s) :
    (again s).run n = (.ok (), n.push s) := by
  simp only [again, run]
  rw [show n.addSubnetAt s.cidr s.name s.vlan = .ok (s, n.push s) from hgiven]
  rfl

/-- A call for one subnet adds a subnet that is given when its block is chosen. -/
theorem grown_givesChosen_run (n : Network) {call : CarveCall} (hsingle : call.isSingle = true) :
    n.Grown GivesChosen (call.run n).2 := by
  cases call with
  | add => exact grown_single fun _ => givesChosen_of_carve
  | addAt => exact grown_single fun _ => givesChosen_of_carveAt
  | addBiggest => exact grown_single fun _ => givesChosen_of_carveBiggest
  | addCabinets => cases hsingle

/-- Calls for one subnet each add subnets that are given when their blocks are chosen. -/
theorem grown_givesChosen_runAll (n : Network) {calls : List CarveCall}
    (hsingle : ∀ call ∈ calls, call.isSingle = true) :
    n.Grown GivesChosen (runAll n calls) := by
  induction calls generalizing n with
  | nil => exact .start
  | cons call rest ih =>
    rw [List.forall_mem_cons] at hsingle
    exact (grown_givesChosen_run n hsingle.1).trans (ih _ hsingle.2)

/-- Subnets that are given one after another when their blocks are chosen can be carved by
choosing their blocks. -/
theorem runAll_again {n : Network} {added : List Subnet}
    (hgiven : ∀ before s after, added = before ++ s :: after →
      GivesChosen { n with subnets := n.subnets ++ before } s) :
    runAll n (added.map again) = { n with subnets := n.subnets ++ added } := by
  induction added generalizing n with
  | nil => simp [runAll]
  | cons s rest ih =>
    have hfirst : n.GivesChosen s := by simpa using hgiven [] s rest rfl
    have hrest : runAll (n.push s) (rest.map again) =
        { n.push s with subnets := (n.push s).subnets ++ rest } := by
      refine ih fun before t after hsplit => ?_
      simpa [Network.push] using hgiven (s :: before) t after (by rw [hsplit, List.cons_append])
    calc runAll n ((s :: rest).map again)
        = runAll ((again s).run n).2 (rest.map again) := rfl
      _ = { n.push s with subnets := (n.push s).subnets ++ rest } := by
        rw [run_again hfirst, hrest]
      _ = { n with subnets := n.subnets ++ s :: rest } := by simp [Network.push]

end CarveCall

/-- Finding and choosing agree: a network that is not sealed gives a chosen block to a new name
exactly if the block lies in it and has no address of a subnet. Where it finds a block by
itself, choosing that block for the same name gives the same subnet and leaves the same network
behind. So whatever calls for one subnet each have added can be added again in the same order by
choosing the blocks, and each of these calls succeeds. -/
theorem chosenBlocks_agree {n : Network} (hopen : n.isSealed = false) :
    (∀ c name vlan, name ∉ n.subnetNames →
      ((∃ s m, n.addSubnetAt c name vlan = .ok (s, m)) ↔
        c.Within n.cidr ∧ ∀ s ∈ n.subnets, c.Disjoint s.cidr)) ∧
    (∀ bits name vlan s m, n.addSubnet bits name vlan = .ok (s, m) →
      n.addSubnetAt s.cidr name vlan = .ok (s, m)) ∧
    (∀ maxBits name vlan s m, n.addBiggestSubnet maxBits name vlan = .ok (s, m) →
      n.addSubnetAt s.cidr name vlan = .ok (s, m)) ∧
    ∀ calls : List CarveCall, (∀ call ∈ calls, call.isSingle = true) →
      ∃ added, CarveCall.runAll n calls = { n with subnets := n.subnets ++ added } ∧
        CarveCall.runAll n (added.map CarveCall.again) = CarveCall.runAll n calls ∧
        ∀ before s after, added = before ++ s :: after →
          GivesChosen { n with subnets := n.subnets ++ before } s := by
  refine ⟨fun c name vlan hnew => ?_, fun bits name vlan s m hadd => ?_,
    fun maxBits name vlan s m hadd => ?_, fun calls hsingle => ?_⟩
  · exact exists_addSubnetAt_iff (checkCanCarve_eq_ok.mpr ⟨hopen, hnew⟩) c vlan
  · exact addSubnetAt_of_carved hadd fun _ hcarve =>
      ⟨(carve_spec hcarve).1, givesChosen_of_carve hcarve⟩
  · exact addSubnetAt_of_carved hadd fun _ hcarve =>
      ⟨carveBiggest_spec hcarve, givesChosen_of_carveBiggest hcarve⟩
  · obtain ⟨added, hmade, hgiven⟩ :=
      (CarveCall.grown_givesChosen_runAll n hsingle).exists_admitted
    exact ⟨added, hmade, (CarveCall.runAll_again hgiven).trans hmade.symm, hgiven⟩

/-- A network with gaps around a block that was chosen gives what it finds also when it is
chosen. -/
theorem chosenBlocks_agree_gappedNetwork :
    let n := CarveCall.runAll (create "HMN" "Hardware Management Network"
      (.ofOctets 10 254 0 0 17) (.single 4) 9000 .ethernet)
      [.addAt (.ofOctets 10 254 2 7 24) "pinned" 4, .add 22 "automatic" 4]
    let calls := [CarveCall.addBiggest 17 "next" 4, .add 23 "last" 4]
    n.isSealed = false ∧ "next" ∉ n.subnetNames ∧
      (∃ s m, n.addSubnetAt (.ofOctets 10 254 3 9 24) "next" 4 = .ok (s, m)) ∧
      (∃ s m, n.addSubnet 23 "next" 4 = .ok (s, m) ∧
        n.addSubnetAt s.cidr "next" 4 = .ok (s, m)) ∧
      (∃ s m, n.addBiggestSubnet 17 "next" 4 = .ok (s, m) ∧
        n.addSubnetAt s.cidr "next" 4 = .ok (s, m)) ∧
      ∃ added, CarveCall.runAll n calls = { n with subnets := n.subnets ++ added } ∧
        CarveCall.runAll n (added.map CarveCall.again) = CarveCall.runAll n calls := by
  intro n calls
  have hopen : n.isSealed = false := by decide +kernel +zetaReduce
  have hnew : "next" ∉ n.subnetNames := by decide +kernel +zetaReduce
  obtain ⟨hchosen, hfound, hbiggest, hruns⟩ := chosenBlocks_agree hopen
  have hwithin : (Cidr.ofOctets 10 254 3 9 24).Within n.cidr :=
    Cidr.within_iff.mpr (by decide +kernel +zetaReduce)
  have hapart : ∀ s ∈ n.subnets, (Cidr.ofOctets 10 254 3 9 24).Disjoint s.cidr := by
    simp only [← Cidr.overlaps_eq_false_iff]
    decide +kernel +zetaReduce
  obtain ⟨⟨s, m⟩, hadd⟩ : ∃ made, n.addSubnet 23 "next" 4 = .ok made :=
    exists_of_isOk (by decide +kernel +zetaReduce)
  obtain ⟨⟨t, k⟩, hadd'⟩ : ∃ made, n.addBiggestSubnet 17 "next" 4 = .ok made :=
    exists_of_isOk (by decide +kernel +zetaReduce)
  obtain ⟨added, hmade, hagain, _⟩ := hruns calls (by decide +zetaReduce)
  exact ⟨hopen, hnew, (hchosen _ _ 4 hnew).mpr ⟨hwithin, hapart⟩,
    ⟨s, m, hadd, hfound _ _ _ s m hadd⟩, ⟨t, k, hadd', hbiggest _ _ _ t k hadd'⟩,
    added, hmade, hagain⟩

end SitePlan.Network
