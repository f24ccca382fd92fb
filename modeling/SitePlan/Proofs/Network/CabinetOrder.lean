import SitePlan.Proofs.Network.CabinetRuns
import SitePlan.Proofs.Network.CarvingRuns

/-!
# The order of declared cabinets

Cabinets are served in the order of their IDs. So a network that is divided among cabinets depends
on the order in which they are declared only where the IDs leave the order open, that is, where two
accepted cabinets have one ID. This takes filters that ask for no more of a group than its kind,
for then moving cabinets about in their groups leaves the same cabinets accepted.
-/

namespace SitePlan

namespace Cabinet

/-- The filter asks for no more of a group than its kind. -/
def Filter.ReadsKind (accepts : Filter) : Prop :=
  ∀ g g' d, g.kind = g'.kind → accepts g d = accepts g' d

/-- The filter for a kind asks for no more than that. -/
theorem Filter.readsKind_ofKind (kind : String) : (ofKind kind).ReadsKind := by
  intro g g' d hkind
  rw [ofKind, ofKind, hkind]

/-- The groups are of one kind and have the same cabinets, in whatever order. -/
structure Group.Rearranges (g g' : Group) : Prop where
  /-- The groups are of one kind. -/
  kind_eq : g.kind = g'.kind
  /-- They have the same cabinets. -/
  details_perm : g.details.Perm g'.details

/-- The same groups in whatever order, and in each of them the cabinets in whatever order. -/
def Rearranged (groups groups' : List Group) : Prop :=
  ∃ between, List.Forall₂ Group.Rearranges groups between ∧ between.Perm groups'

/-- Moving cabinets about in their groups leaves the same cabinets accepted. -/
theorem perm_select_of_forall₂ {accepts : Filter} (hreads : accepts.ReadsKind)
    {groups groups' : List Group} (hgroups : List.Forall₂ Group.Rearranges groups groups') :
    (select accepts groups).Perm (select accepts groups') := by
  induction hgroups with
  | nil => exact .refl _
  | @cons g g' _ _ hg _ ih =>
    have haccepts : accepts g = accepts g' := funext fun d => hreads g g' d hg.kind_eq
    have hfirst : (g.details.filter (accepts g)).Perm (g'.details.filter (accepts g')) :=
      haccepts ▸ hg.details_perm.filter (accepts g)
    simpa only [select, List.flatMap_cons] using hfirst.append ih

/-- Rearranged groups have the same accepted cabinets. -/
theorem Rearranged.perm_select {accepts : Filter} (hreads : accepts.ReadsKind)
    {groups groups' : List Group} (hgroups : Rearranged groups groups') :
    (select accepts groups).Perm (select accepts groups') := by
  obtain ⟨between, hcabinets, horder⟩ := hgroups
  exact (perm_select_of_forall₂ hreads hcabinets).trans (horder.flatMap_right _)

end Cabinet

namespace Network

/-- IDs are ordered. -/
theorem id_le_trans (d e f : Cabinet.Detail) (hde : decide (d.id ≤ e.id) = true)
    (hef : decide (e.id ≤ f.id) = true) : decide (d.id ≤ f.id) = true := by
  rw [decide_eq_true_eq] at hde hef ⊢
  exact UInt32.le_trans hde hef

/-- Of two IDs the one is not above the other. -/
theorem id_le_total (d e : Cabinet.Detail) :
    (decide (d.id ≤ e.id) || decide (e.id ≤ d.id)) = true := by
  rw [Bool.or_eq_true, decide_eq_true_eq, decide_eq_true_eq]
  exact UInt32.le_total d.id e.id

/-- Cabinets are served in the order of their IDs. -/
theorem pairwise_servedCabinets (accepts : Cabinet.Filter) (groups : List Cabinet.Group) :
    (servedCabinets accepts groups).Pairwise fun d e => d.id ≤ e.id :=
  (pairwise_sortBy id_le_trans id_le_total _).imp fun h => of_decide_eq_true h

/-- Where no two accepted cabinets have one ID, the order of their declaration is forgotten. -/
theorem servedCabinets_eq_of_perm {accepts : Cabinet.Filter} {groups groups' : List Cabinet.Group}
    (hperm : (Cabinet.select accepts groups).Perm (Cabinet.select accepts groups'))
    (hids : ((Cabinet.select accepts groups).map Cabinet.Detail.id).Nodup) :
    servedCabinets accepts groups = servedCabinets accepts groups' := by
  refine sortBy_eq_of_perm id_le_trans id_le_total hperm fun d hd e he hde hed => ?_
  have hid : d.id = e.id :=
    UInt32.le_antisymm (of_decide_eq_true hde) (of_decide_eq_true hed)
  exact List.inj_on_of_nodup_map hids hd he hid

/-- What is done with the groups is done with the cabinets that are served. -/
theorem addCabinetSubnets_congr (n : Network) {accepts : Cabinet.Filter}
    {groups groups' : List Cabinet.Group}
    (hserved : servedCabinets accepts groups = servedCabinets accepts groups') (bits : Nat)
    (overrides : Option Overrides) :
    n.addCabinetSubnets groups bits accepts overrides =
      n.addCabinetSubnets groups' bits accepts overrides := by
  unfold servedCabinets at hserved
  simp only [addCabinetSubnets, hserved]

/-- Dividing a network among cabinets: if it succeeds, the accepted cabinets have in the order of
their IDs one new subnet each, the one at its place for a cabinet of its ID, pins and place, and no
subnet of the network is amiss. If no two accepted cabinets have one ID, then the groups and the
cabinets in each of them may be declared in any other order: the outcome is the same, be it a
success or a fault, and so is the network. -/
theorem addCabinetSubnets_outcome {n : Network} (hn : n.WellCarved) {accepts : Cabinet.Filter}
    (hreads : accepts.ReadsKind) (groups : List Cabinet.Group) (bits : Nat)
    (overrides : Option Overrides) :
    (∀ m, n.addCabinetSubnets groups bits accepts overrides = (.ok (), m) →
      ∃ cabinets added,
        cabinets.Perm (Cabinet.select accepts groups) ∧
        cabinets.Pairwise (fun d e => d.id ≤ e.id) ∧
        m = { n with subnets := n.subnets ++ added } ∧ m.WellCarved ∧
        List.Forall₂ (fun d s => n.IsCabinetSubnet bits overrides cabinets d.2 d.1 s)
          cabinets.zipIdx added) ∧
    (((Cabinet.select accepts groups).map Cabinet.Detail.id).Nodup →
      ∀ groups', Cabinet.Rearranged groups groups' →
        n.addCabinetSubnets groups' bits accepts overrides =
          n.addCabinetSubnets groups bits accepts overrides) := by
  constructor
  · intro m hok
    have hgrown := grown_addCabinetSubnets n groups bits accepts overrides
    rw [hok] at hgrown
    obtain ⟨added, hm, hserved⟩ := exists_serves hok
    exact ⟨_, added, servedCabinets_perm accepts groups, pairwise_servedCabinets accepts groups,
      hm, hgrown.wellCarved hn, hserved⟩
  · intro hids groups' hrearranged
    exact n.addCabinetSubnets_congr
      (servedCabinets_eq_of_perm (hrearranged.perm_select hreads) hids).symm bits overrides

/-- A network with one subnet. -/
def rackNetwork : Network :=
  CarveCall.runAll (create "HMN_RVR" "River Compute Hardware Management Network"
    (.ofOctets 10 107 0 0 18) ⟨1513, 1769⟩ 9000 .ethernet) [.add 24 "bootstrap_dhcp" 4]

/-- Racks in two groups, beside another group. One rack must get a VLAN and another one a block. -/
def rackGroups : List Cabinet.Group := [
  { kind := "river", details := [.ofId 3002, { id := 3000, hmnVlan := some 1600 }] },
  { kind := "hill", details := [.ofId 9000] },
  { kind := "river", details := [{ id := 3001, hmnSubnet := some (.ofOctets 10 107 4 9 23) }] }]

/-- The same groups the other way round, one of them with its racks the other way round. -/
def rackGroupsReversed : List Cabinet.Group := [
  { kind := "river", details := [{ id := 3001, hmnSubnet := some (.ofOctets 10 107 4 9 23) }] },
  { kind := "hill", details := [.ofId 9000] },
  { kind := "river", details := [{ id := 3000, hmnVlan := some 1600 }, .ofId 3002] }]

/-- The racks are served around the subnet that is there and the block that one of them must get,
however they are declared. -/
theorem addCabinetSubnets_outcome_rackNetwork :
    rackNetwork.WellCarved ∧ (Cabinet.Filter.ofKind "river").ReadsKind ∧
      (∃ m cabinets added,
        rackNetwork.addCabinetSubnets rackGroups 22 (.ofKind "river") (some .hmn) =
          (.ok (), m) ∧
        m.subnets.map (fun s => (s.name, s.cidr, s.vlan)) =
          [("bootstrap_dhcp", .ofOctets 10 107 0 0 24, 4),
            ("cabinet_3000", .ofOctets 10 107 8 0 22, 1600),
            ("cabinet_3001", .ofOctets 10 107 4 0 23, 1514),
            ("cabinet_3002", .ofOctets 10 107 12 0 22, 1515)] ∧
        cabinets.Perm (Cabinet.select (.ofKind "river") rackGroups) ∧
        cabinets.Pairwise (fun d e => d.id ≤ e.id) ∧
        m = { rackNetwork with subnets := rackNetwork.subnets ++ added } ∧ m.WellCarved ∧
        List.Forall₂
          (fun d s => rackNetwork.IsCabinetSubnet 22 (some .hmn) cabinets d.2 d.1 s)
          cabinets.zipIdx added) ∧
      ((Cabinet.select (.ofKind "river") rackGroups).map Cabinet.Detail.id).Nodup ∧
      Cabinet.Rearranged rackGroups rackGroupsReversed ∧
      rackNetwork.addCabinetSubnets rackGroupsReversed 22 (.ofKind "river") (some .hmn) =
        rackNetwork.addCabinetSubnets rackGroups 22 (.ofKind "river") (some .hmn) := by
  have hn : rackNetwork.WellCarved :=
    (CarveCall.grown_runAll _ _).wellCarved (wellCarved_of_subnets_eq_nil rfl)
  have hreads := Cabinet.Filter.readsKind_ofKind "river"
  have hids : ((Cabinet.select (.ofKind "river") rackGroups).map Cabinet.Detail.id).Nodup := by
    decide +kernel
  have hrearranged : Cabinet.Rearranged rackGroups rackGroupsReversed := by
    refine ⟨rackGroupsReversed.reverse, ?_, List.reverse_perm _⟩
    exact .cons ⟨rfl, .swap _ _ _⟩ (.cons ⟨rfl, .refl _⟩ (.cons ⟨rfl, .refl _⟩ .nil))
  have hok : rackNetwork.addCabinetSubnets rackGroups 22 (.ofKind "river") (some .hmn) =
      (.ok (), (rackNetwork.addCabinetSubnets rackGroups 22 (.ofKind "river") (some .hmn)).2) :=
    Prod.ext (by decide +kernel) rfl
  obtain ⟨houtcome, hsame⟩ := addCabinetSubnets_outcome hn hreads rackGroups 22 (some .hmn)
  obtain ⟨cabinets, added, hserved⟩ := houtcome _ hok
  exact ⟨hn, hreads, ⟨_, cabinets, added, hok, by decide +kernel, hserved⟩, hids, hrearranged,
    hsame hids _ hrearranged⟩

end Network

end SitePlan
