import Mathlib.Data.Set.Card
import SitePlan.Proofs.Network.CabinetRuns

/-!
# Room for cabinets

A cabinet that must get no block takes one block of the wanted size from those that are open, and
a cabinet that must get a block takes none of them, since open blocks lie away from all blocks that
cabinets must get. So the number of open blocks goes down by one with every cabinet of the first
sort, and the search fails only after it gave all of them away.
-/

namespace SitePlan.Network

open Outcome

variable {bits : Nat} {overrides : Option Overrides} {cabinets : List Cabinet.Detail}

/-! ### The fault -/

/-- Where the fault is that no block is free, this is the reason. -/
def BlamesRoom (reason : Prop) : AddressError → Prop
  | .noFreeBlock .. => reason
  | _ => True

/-- A block that must be got and cannot be carved is no question of room for others. -/
theorem blamesRoom_carveAt (reason : Prop) (n : Network) (pin : Cidr) (name : String)
    (vlan : UInt16) : FailsOnly (BlamesRoom reason) (n.carveAt pin name vlan) := by
  refine (failsOnly_checkCanCarve trivial trivial).bind fun _ _ => ?_
  dsimp only
  split
  · exact failsOnly_error trivial
  · split
    · exact failsOnly_error trivial
    · exact failsOnly_ok _

/-- No block is free for a cabinet only if it must get none and no block is open. -/
theorem blamesRoom_carveAround (n : Network) (d : Cabinet.Detail) (vlan : UInt16) :
    FailsOnly
      (BlamesRoom ((∀ pin, ¬Pins overrides d pin) ∧ ∀ c, ¬n.IsOpenBlock bits overrides cabinets c))
      (n.carveAround bits overrides (pinnedStretches overrides cabinets) d vlan) := by
  unfold carveAround
  split
  · exact blamesRoom_carveAt _ n _ _ vlan
  · next hnone =>
    refine (failsOnly_checkCanCarve trivial trivial).bind fun _ _ => ?_
    split
    · exact failsOnly_ok _
    · next hfull =>
      refine failsOnly_error ⟨forall_not_pins_iff.mpr hnone, fun c hc => ?_⟩
      exact freeBlock?_eq_none_iff.mp hfull c (vacant_pinnedStretches_iff.mpr hc)

/-- The subnet of a cabinet stops for lack of room only if the cabinet must get no block and no
block is open. -/
theorem blamesRoom_carveCabinet (n : Network) (place : Nat) (d : Cabinet.Detail) :
    FailsOnly
      (BlamesRoom ((∀ pin, ¬Pins overrides d pin) ∧ ∀ c, ¬n.IsOpenBlock bits overrides cabinets c))
      (n.carveCabinet bits overrides (pinnedStretches overrides cabinets) place d) :=
  (failsOnly_cabinetVlan trivial).bind fun vlan _ =>
    (blamesRoom_carveAround n d vlan).bind fun _ _ => failsOnly_ok _

/-! ### Open blocks -/

/-- The cabinet must get no block. -/
def isUnpinned (overrides : Option Overrides) (d : Cabinet.Detail) : Bool :=
  (overrides.bind (·.subnet? d)).isNone

/-- A cabinet that must get no block has none to get. -/
theorem isUnpinned_iff {d : Cabinet.Detail} :
    isUnpinned overrides d = true ↔ ∀ pin, ¬Pins overrides d pin := by
  rw [isUnpinned, Option.isNone_iff_eq_none, forall_not_pins_iff]

/-- The subnets that cabinets got are on as many blocks of the size as there were cabinets that
must get none, and on blocks that the other cabinets must get. -/
theorem Serves.exists_blocks {n : Network} {place : Nat} {served : List Cabinet.Detail}
    {added : List Subnet} (hserved : n.Serves bits overrides cabinets place served added) :
    ∃ blocks : List Cidr, blocks.length = served.countP (isUnpinned overrides) ∧
      ∀ s ∈ added, (s.cidr ∈ blocks ∧ s.cidr.IsAligned ∧ s.cidr.bits = bits) ∨
        ∃ d ∈ served, ∃ pin, Pins overrides d pin ∧ s.cidr = pin.dropHost := by
  induction served generalizing place added with
  | nil =>
    cases hserved
    exact ⟨[], rfl, by simp⟩
  | cons d rest ih =>
    rw [Serves, List.zipIdx_cons] at hserved
    cases hserved with
    | cons hs hrest =>
      next s added =>
      obtain ⟨blocks, hlength, hall⟩ := ih hrest
      have hlater : ∀ t ∈ added,
          (t.cidr ∈ blocks ∧ t.cidr.IsAligned ∧ t.cidr.bits = bits) ∨
            ∃ e ∈ d :: rest, ∃ pin, Pins overrides e pin ∧ t.cidr = pin.dropHost := by
        intro t ht
        refine (hall t ht).imp_right ?_
        rintro ⟨e, he, hpin⟩
        exact ⟨e, List.mem_cons_of_mem d he, hpin⟩
      by_cases hfree : isUnpinned overrides d = true
      · have hopen := hs.freeBlock (isUnpinned_iff.mp hfree)
        refine ⟨s.cidr :: blocks, ?_, List.forall_mem_cons.mpr ⟨.inl ?_, fun t ht => ?_⟩⟩
        · rw [List.countP_cons_of_pos hfree, List.length_cons, hlength]
        · exact ⟨List.mem_cons_self, hopen.fits.aligned, hopen.bits_eq⟩
        · exact (hlater t ht).imp_left (And.imp_left (List.mem_cons_of_mem s.cidr))
      · obtain ⟨pin, hpin⟩ : ∃ pin, Pins overrides d pin := by
          simpa using isUnpinned_iff.not.mp hfree
        refine ⟨blocks, ?_, List.forall_mem_cons.mpr ⟨.inr ?_, hlater⟩⟩
        · rw [List.countP_cons_of_neg hfree, hlength]
        · exact ⟨d, List.mem_cons_self, pin, hpin, hs.pinnedBlock pin hpin⟩

/-- When no block is open any more, the open blocks were no more than the cabinets among those
served that must get none. -/
theorem Serves.encard_isOpenBlock_le {n : Network} {place : Nat} {served : List Cabinet.Detail}
    {added : List Subnet} (hserved : n.Serves bits overrides cabinets place served added)
    (hamong : ∀ d ∈ served, d ∈ cabinets)
    (hfull : ∀ c, ¬IsOpenBlock { n with subnets := n.subnets ++ added } bits overrides cabinets c) :
    {c | n.IsOpenBlock bits overrides cabinets c}.encard ≤
      served.countP (isUnpinned overrides) := by
  obtain ⟨blocks, hlength, hall⟩ := hserved.exists_blocks
  have hsubset : {c | n.IsOpenBlock bits overrides cabinets c} ⊆ ↑blocks.toFinset := by
    intro c hc
    rw [List.coe_toFinset]
    by_contra habsent
    -- Away from the subnets that were added the block would be open still.
    refine hfull c ⟨⟨hc.fits.aligned, hc.fits.within, ?_⟩, hc.bits_eq, hc.clear⟩
    refine List.forall_mem_append.mpr ⟨hc.fits.apart, fun s hs => ?_⟩
    rcases hall s hs with ⟨hmem, haligned, hbits⟩ | ⟨d, hd, pin, hpin, hblock⟩
    · rcases hc.fits.aligned.eq_or_disjoint haligned (hc.bits_eq.trans hbits.symm) with rfl | hapart
      · exact absurd hmem habsent
      · exact hapart
    · rw [hblock]
      exact (Cidr.disjoint_dropHost_iff.mpr (hc.clear d (hamong d hd) pin hpin).symm).symm
  calc {c | n.IsOpenBlock bits overrides cabinets c}.encard
      ≤ (↑blocks.toFinset : Set Cidr).encard := Set.encard_le_encard hsubset
    _ = blocks.toFinset.card := Set.encard_coe_eq_coe_finsetCard _
    _ ≤ served.countP (isUnpinned overrides) := by
      rw [← hlength]
      exact_mod_cast blocks.toFinset_card_le

/-- Which blocks are open does not depend on the order of the cabinets. -/
theorem isOpenBlock_congr {n : Network} {cabinets' : List Cabinet.Detail}
    (hperm : cabinets.Perm cabinets') {c : Cidr} :
    n.IsOpenBlock bits overrides cabinets c ↔ n.IsOpenBlock bits overrides cabinets' c := by
  constructor
  · exact fun hc => ⟨hc.fits, hc.bits_eq, fun d hd => hc.clear d (hperm.mem_iff.mpr hd)⟩
  · exact fun hc => ⟨hc.fits, hc.bits_eq, fun d hd => hc.clear d (hperm.mem_iff.mp hd)⟩

/-- As many blocks apart from each other as there are open ones cannot be found among fewer. -/
theorem length_le_encard {blocks : List Cidr} (hapart : blocks.Pairwise Cidr.Disjoint)
    {suits : Set Cidr} (hsuits : ∀ c ∈ blocks, c ∈ suits) : blocks.length ≤ suits.encard := by
  have hnodup : blocks.Nodup := by
    refine hapart.imp ?_
    rintro c _ hdisjoint rfl
    exact c.not_disjoint_self hdisjoint
  calc (blocks.length : ℕ∞)
      = blocks.toFinset.card := by rw [List.toFinset_card_of_nodup hnodup]
    _ = (↑blocks.toFinset : Set Cidr).encard := (Set.encard_coe_eq_coe_finsetCard _).symm
    _ ≤ suits.encard := Set.encard_le_encard fun c hc => hsuits c (by simpa using hc)

/-- Dividing a network among cabinets wastes no room. If it fails because no block is free, then
more of the accepted cabinets must get no block than there are blocks for them: aligned blocks of
the size that lie in the network and have no address of a subnet that was there before and none of
a block that an accepted cabinet must get. So these cabinets could not have been given one such
block each, apart from each other, in any way. -/
theorem addCabinetSubnets_wastesNothing {n m : Network} {groups : List Cabinet.Group}
    {bits : Nat} {accepts : Cabinet.Filter} {overrides : Option Overrides} {network name : String}
    {cidr : Cidr} {size : Nat}
    (hfault : n.addCabinetSubnets groups bits accepts overrides =
      (.error (.noFreeBlock network cidr size name), m)) :
    let cabinets := Cabinet.select accepts groups
    {c | n.IsOpenBlock bits overrides cabinets c}.encard <
      cabinets.countP (isUnpinned overrides) ∧
    ¬∃ blocks : List Cidr, blocks.length = cabinets.countP (isUnpinned overrides) ∧
      blocks.Pairwise Cidr.Disjoint ∧ ∀ c ∈ blocks, n.IsOpenBlock bits overrides cabinets c := by
  intro cabinets
  have hroom : {c | n.IsOpenBlock bits overrides cabinets c}.encard <
      cabinets.countP (isUnpinned overrides) := by
    have hperm : cabinets.Perm (servedCabinets accepts groups) :=
      (servedCabinets_perm accepts groups).symm
    simp only [isOpenBlock_congr hperm, hperm.countP_eq]
    have hcases := n.addCabinetSubnets_cases groups bits accepts overrides
    rw [hfault] at hcases
    rcases hcases with hsealed | hsize | hrun
    · cases hsealed
    · cases hsize
    · cases hrun with
      | @stopped served later d added _ hall hserved hstop =>
        obtain ⟨hfree, hfull⟩ := blamesRoom_carveCabinet _ _ d _ hstop
        have hle := hserved.encard_isOpenBlock_le
          (fun e he => hall ▸ List.mem_append_left _ he) hfull
        have hlt : served.countP (isUnpinned overrides) <
            (servedCabinets accepts groups).countP (isUnpinned overrides) := by
          rw [hall, List.countP_append, List.countP_cons_of_pos (isUnpinned_iff.mpr hfree)]
          omega
        exact hle.trans_lt (by exact_mod_cast hlt)
  refine ⟨hroom, ?_⟩
  rintro ⟨blocks, hlength, hapart, hopen⟩
  have hle : blocks.length ≤ {c | n.IsOpenBlock bits overrides cabinets c}.encard :=
    length_le_encard hapart hopen
  rw [hlength] at hle
  exact absurd hroom (not_lt_of_ge hle)

/-- A network of four blocks, with a subnet in the first one. -/
def crampedNetwork : Network where
  name := "HMN_RVR"
  cidr := .ofOctets 10 107 0 0 20
  vlanRange := ⟨1513, 1769⟩
  mtu := 9000
  fabric := .ethernet
  subnets := [.create "network_hardware" (.ofOctets 10 107 0 0 29) 4]

/-- Four racks. One of them must get a block in the second block of the network. -/
def crowdedGroups : List Cabinet.Group := [
  { kind := "river"
    details := [.ofId 3003, .ofId 3000, .ofId 3001,
      { id := 3002, hmnSubnet := some (.ofOctets 10 107 4 64 28) }] }]

/-- Two of the three other racks get the two blocks that are left, and there is none for the
third. -/
theorem addCabinetSubnets_wastesNothing_crampedNetwork :
    (∃ m, crampedNetwork.addCabinetSubnets crowdedGroups 22 (.ofKind "river") (some .hmn) =
        (.error (.noFreeBlock "HMN_RVR" (.ofOctets 10 107 0 0 20) 22 "cabinet_3003"), m) ∧
      m.subnets.map (fun s => (s.name, s.cidr)) =
        [("network_hardware", .ofOctets 10 107 0 0 29),
          ("cabinet_3000", .ofOctets 10 107 8 0 22), ("cabinet_3001", .ofOctets 10 107 12 0 22),
          ("cabinet_3002", .ofOctets 10 107 4 64 28)]) ∧
      (Cabinet.select (.ofKind "river") crowdedGroups).countP (isUnpinned (some .hmn)) = 3 ∧
      {c | crampedNetwork.IsOpenBlock 22 (some .hmn)
        (Cabinet.select (.ofKind "river") crowdedGroups) c}.encard < 3 := by
  have hfault :
      crampedNetwork.addCabinetSubnets crowdedGroups 22 (.ofKind "river") (some .hmn) =
        (.error (.noFreeBlock "HMN_RVR" (.ofOctets 10 107 0 0 20) 22 "cabinet_3003"),
          (crampedNetwork.addCabinetSubnets crowdedGroups 22 (.ofKind "river") (some .hmn)).2) :=
    Prod.ext (by decide +kernel) rfl
  have hthree :
      (Cabinet.select (.ofKind "river") crowdedGroups).countP (isUnpinned (some .hmn)) = 3 := by
    decide +kernel
  have hroom := (addCabinetSubnets_wastesNothing hfault).1
  rw [hthree] at hroom
  exact ⟨⟨_, hfault, by decide +kernel⟩, hthree, hroom⟩

end SitePlan.Network
