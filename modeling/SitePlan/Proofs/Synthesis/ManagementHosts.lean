import SitePlan.ManagementNode
import SitePlan.Proofs.Synthesis.NodeIdentity

/-!
# Host names of management nodes

The management nodes of an inventory are those that rows are recorded as, under the host
names of their roles and numbers.
-/

namespace SitePlan.Synthesis

open Cabling Hardware Outcome

/-- The host name that the address plan takes for the node of these properties. -/
def plannedName? (p : NodeProperties) : Option String :=
  if p.role = .management then p.aliases.head? else none

/-- The host name under which a record's node is a management node of the plan. -/
theorem map_hostName_ofRecord? (r : Record) :
    (ManagementNode.ofRecord? r).map ManagementNode.hostName = r.node?.bind plannedName? := by
  unfold ManagementNode.ofRecord?
  cases r.node? with
  | none => rfl
  | some p =>
    by_cases hrole : p.role = .management
    · cases hhead : p.aliases.head? <;> simp [plannedName?, hrole, hhead]
    · simp [plannedName?, hrole]

/-- A node in a rack is planned under the host name that its row gives. -/
theorem RecordsNode.plannedName? {config : ApplicationNode.Config} {p : NodeProperties}
    {r : Record} (hr : RecordsNode config p r) (hp : NamedOnce p) :
    r.node?.bind Synthesis.plannedName? = Synthesis.plannedName? p := by
  have hfirst := hr.firstName? hp
  rw [Record.firstName?, hr.2, Option.bind_some] at hfirst
  rw [hr.2, Option.bind_some, Synthesis.plannedName?, Synthesis.plannedName?]
  split
  · next hrole =>
    have hother : p.role ≠ .application := by
      rw [hrole]
      decide
    rwa [if_neg hother] at hfirst
  · rfl

/-- The planned host names of rows are those of the management nodes. -/
theorem filterMap_plannedName?_numberedNodes (nids : NidSequence) (kinds : List NodeKind) :
    (numberedNodes nids kinds).filterMap plannedName? =
      (kinds.filterMap managementNode?).map managementName := by
  induction kinds generalizing nids with
  | nil => rfl
  | cons kind rest ih =>
    cases kind <;>
      simp [numberedNodes, nodeProperties?, nidsAfter, managementNode?, managementName,
        plannedName?, List.filterMap_cons, ih]

variable {inputs : Inputs} {first : UInt64} {rows : List Row} {filed : Inventory}

/-- The management nodes of an inventory have the host names of the management nodes that
rows are recorded as. -/
theorem perm_hostNames_ofInventory
    (hok : (inventory inputs (.startingAt first) rows).1 = .ok filed) :
    ((ManagementNode.ofInventory filed).map ManagementNode.hostName).Perm
      ((managementNodes inputs.applicationNodes rows).map managementName) := by
  have hnames := perm_filterMap_inventory (f := fun r => r.node?.bind plannedName?)
    (g := plannedName?) (h := fun _ => none) hok (fun r hr => by rw [hr]; rfl)
    (fun p hp r hr => hr.plannedName? (namedOnce_numberedNodes hp))
    (fun nid r hr => by rw [hr.2]; rfl)
  have hsorted : (ManagementNode.ofInventory filed).Perm
      (filed.values.filterMap ManagementNode.ofRecord?) := sortBy_perm _ _
  rw [filterMap_plannedName?_numberedNodes, List.filterMap_none, List.append_nil] at hnames
  apply (hsorted.map _).trans
  rw [List.map_filterMap]
  simp only [map_hostName_ofRecord?]
  exact hnames

/-- The management nodes of an inventory have different host names exactly if the rows name
no role and number twice. -/
theorem nodup_hostNames_ofInventory
    (hok : (inventory inputs (.startingAt first) rows).1 = .ok filed) :
    ((ManagementNode.ofInventory filed).map ManagementNode.hostName).Nodup ↔
      (managementNodes inputs.applicationNodes rows).Nodup := by
  rw [(perm_hostNames_ofInventory hok).nodup_iff]
  exact List.nodup_map_iff fun _ _ => managementName_inj.mp

/-- Every management node of an inventory has a host name. -/
theorem hostNames_ne_nil
    (hok : (inventory inputs (.startingAt first) rows).1 = .ok filed)
    {r : Record} (hr : r ∈ filed.values) {p : NodeProperties} (hnode : r.node? = some p)
    (hrole : p.role = .management) : r.hostNames ≠ [] := by
  obtain ⟨racks, cabinets, hracks, hcabinets, hperm⟩ := perm_nodesOf_inventory hok
  have hmem : r ∈ racks ++ cabinets :=
    hperm.mem_iff.mp (List.mem_filter.mpr ⟨hr, by rw [hnode]; rfl⟩)
  rcases List.mem_append.mp hmem with hrack | hcabinet
  · obtain ⟨q, hq, hrecords⟩ := exists_of_forall₂ hracks hrack
    obtain rfl := Option.some.inj (hnode.symm.trans hrecords.2)
    rcases namedOnce_numberedNodes hq with ⟨happlication, _⟩ | ⟨_, name, hname⟩
    · rw [show q.role = .management from hrole] at happlication
      cases happlication
    · have hgiven : name ∈ r.hostNames := by
        rw [Record.hostNames, hrecords.2, Option.map_some, Option.getD_some, mem_addNames, hname]
        exact .inl List.mem_cons_self
      exact List.ne_nil_of_mem hgiven
  · obtain ⟨nid, _, hrecords⟩ := exists_of_forall₂ hcabinets hcabinet
    obtain rfl := Option.some.inj (hnode.symm.trans hrecords.2)
    cases hrole

end SitePlan.Synthesis
