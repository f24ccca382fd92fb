import SitePlan.Proofs.Hardware.Filing
import SitePlan.Proofs.Synthesis.CabinetNodes

/-!
# The numbers of nodes

The numbers of an inventory's nodes come from three sources: management nodes are counted,
compute nodes in racks bring their numbers in their names, and the nodes of liquid-cooled
cabinets are counted. Nothing keeps the three apart but the site.
-/

namespace SitePlan

open Cabling Hardware

/-- The number of the node that a record is of, if it is of a node with a number. -/
def Hardware.Record.nid? (r : Record) : Option UInt64 := r.node?.bind NodeProperties.nid

namespace Synthesis

/-- The role and number of a management node. -/
def managementNode? : NodeKind → Option (ManagementRole × UInt32)
  | .management role number => some (role, number)
  | _ => none

/-- The number of a compute node. -/
def computeNid? : NodeKind → Option UInt64
  | .compute nid => some nid
  | _ => none

/-- The management nodes that rows are recorded as. -/
def managementNodes (config : ApplicationNode.Config) (rows : List Row) :
    List (ManagementRole × UInt32) :=
  (recordedKinds config rows).filterMap managementNode?

/-- The numbers of the compute nodes that rows are recorded as. -/
def computeNids (config : ApplicationNode.Config) (rows : List Row) : List UInt64 :=
  (recordedKinds config rows).filterMap computeNid?

/-- The numbers of the nodes of liquid-cooled cabinets. -/
def liquidCooledNids (first : UInt64) (cabinets : List Cabinet.Group) : List UInt64 :=
  countedNids first (nodePlaces.length * (liquidCooledChassis cabinets).length)

/-- Counting starts with the first number. -/
theorem countedNids_succ (first : UInt64) (count : Nat) :
    countedNids first (count + 1) = first :: countedNids (first + (1 : Nat).toUInt64) count := by
  rw [Nat.add_comm, countedNids_add]
  simp [countedNids]

/-- The nodes of rows have the counted numbers of management nodes and the numbers in the
names of compute nodes. -/
theorem filterMap_nid_numberedNodes (nids : NidSequence) (kinds : List NodeKind) :
    ((numberedNodes nids kinds).filterMap NodeProperties.nid).Perm
      (countedNids nids.next (kinds.filterMap managementNode?).length ++
        kinds.filterMap computeNid?) := by
  induction kinds generalizing nids with
  | nil => exact .refl _
  | cons kind rest ih =>
    cases kind with
    | management role number =>
      have hrest := (ih (nids.skip 1)).cons nids.next
      simpa [numberedNodes, nodeProperties?, nidsAfter, managementNode?, computeNid?,
        List.filterMap_cons, countedNids_succ, NidSequence.skip] using hrest
    | compute nid =>
      have hrest := ((ih nids).cons nid).trans List.perm_middle.symm
      simpa [numberedNodes, nodeProperties?, nidsAfter, managementNode?, computeNid?,
        List.filterMap_cons] using hrest
    | application _ | system | unknown =>
      simpa [numberedNodes, nodeProperties?, nidsAfter, managementNode?, computeNid?,
        List.filterMap_cons] using ih nids

/-- What is asked of nodes is asked of the records of nodes only. -/
theorem filterMap_nodesOf {β : Type} (f : Record → Option β)
    (hnode : ∀ r, r.node? = none → f r = none) (records : List Record) :
    (nodesOf records).filterMap f = records.filterMap f := by
  rw [nodesOf, List.filterMap_filter]
  refine List.filterMap_congr fun r _ => ?_
  cases hr : r.node? with
  | none => simp [hnode r hr]
  | some p => simp

/-- Records that correspond to what nodes say give the same answers. -/
theorem filterMap_forall₂ {α β γ : Type} {R : α → β → Prop} {f : α → Option γ}
    {g : β → Option γ} {as : List α} {bs : List β} (hsame : ∀ a ∈ as, ∀ b, R a b → g b = f a)
    (hall : List.Forall₂ R as bs) : bs.filterMap g = as.filterMap f := by
  induction hall with
  | nil => rfl
  | cons hab _ ih =>
    have hrest := ih fun a ha => hsame a (List.mem_cons_of_mem _ ha)
    rw [List.filterMap_cons, List.filterMap_cons, hsame _ List.mem_cons_self _ hab, hrest]

variable {inputs : Inputs} {first : UInt64} {rows : List Row} {filed : Inventory}

/-- The nodes of an inventory are those that rows are recorded as and those of the
liquid-cooled cabinets. -/
theorem perm_nodesOf_inventory
    (hok : (inventory inputs (.startingAt first) rows).1 = .ok filed) :
    ∃ racks cabinets,
      List.Forall₂ (RecordsNode inputs.applicationNodes)
        (numberedNodes ⟨firstManagementNid⟩ (recordedKinds inputs.applicationNodes rows))
        racks ∧
      List.Forall₂ RecordsCounted (liquidCooledNids first inputs.cabinets) cabinets ∧
      (nodesOf filed.values).Perm (racks ++ cabinets) := by
  obtain ⟨_, switches, racks, cabinets, later, hswitches, hracks, hcabinets, hperm⟩ :=
    inventory_spec hok
  obtain ⟨hlater, hrackNodes⟩ := rackHardware_spec hracks
  have hcabinetNodes := liquidCooledHardware_spec hcabinets
  rw [hlater] at hcabinetNodes
  refine ⟨nodesOf racks, nodesOf cabinets, hrackNodes, hcabinetNodes, ?_⟩
  have hnodes : (nodesOf filed.values).Perm (nodesOf (switches ++ racks ++ cabinets)) :=
    hperm.filter _
  rwa [nodesOf_append, nodesOf_append, nodesOf_switchHardware hswitches,
    List.nil_append] at hnodes

/-- What is asked of an inventory's nodes has the answers for the nodes that rows are
recorded as and those for the counted ones of liquid-cooled cabinets. -/
theorem perm_filterMap_inventory {β : Type} {f : Record → Option β}
    {g : NodeProperties → Option β} {h : UInt64 → Option β}
    (hok : (inventory inputs (.startingAt first) rows).1 = .ok filed)
    (hnode : ∀ r, r.node? = none → f r = none)
    (hrack : ∀ p ∈ numberedNodes ⟨firstManagementNid⟩ (recordedKinds inputs.applicationNodes rows),
      ∀ r, RecordsNode inputs.applicationNodes p r → f r = g p)
    (hcabinet : ∀ nid r, RecordsCounted nid r → f r = h nid) :
    (filed.values.filterMap f).Perm
      ((numberedNodes ⟨firstManagementNid⟩
        (recordedKinds inputs.applicationNodes rows)).filterMap g ++
          (liquidCooledNids first inputs.cabinets).filterMap h) := by
  obtain ⟨racks, cabinets, hracks, hcabinets, hperm⟩ := perm_nodesOf_inventory hok
  have hmine := hperm.filterMap f
  rw [filterMap_nodesOf f hnode, List.filterMap_append, filterMap_forall₂ hrack hracks,
    filterMap_forall₂ (fun nid _ => hcabinet nid) hcabinets] at hmine
  exact hmine

/-- The numbers of an inventory's nodes are the counted ones of management nodes, those in
the names of compute nodes, and the counted ones of liquid-cooled cabinets. -/
theorem perm_nids_inventory
    (hok : (inventory inputs (.startingAt first) rows).1 = .ok filed) :
    (filed.values.filterMap Record.nid?).Perm
      (countedNids firstManagementNid (managementNodes inputs.applicationNodes rows).length ++
        computeNids inputs.applicationNodes rows ++ liquidCooledNids first inputs.cabinets) := by
  have hnids := perm_filterMap_inventory (f := Record.nid?) (g := NodeProperties.nid)
    (h := some) hok (fun r hr => by rw [Record.nid?, hr]; rfl)
    (fun p _ r hr => by rw [Record.nid?, hr.2]; rfl)
    (fun nid r hr => by rw [Record.nid?, hr.2]; rfl)
  rw [List.filterMap_some] at hnids
  apply hnids.trans
  exact (filterMap_nid_numberedNodes _ _).append_right _

end Synthesis

end SitePlan
