import SitePlan.Proofs.ApplicationNode
import SitePlan.Proofs.Synthesis.NodeNumbers
import SitePlan.Proofs.Text.Padding

/-!
# The host names of nodes

The first host name of a management or compute node is generated from its role or number,
and a site may give further ones to nodes in racks. Generated names are different for
different roles and numbers, and given names are different for different locations, so two
nodes share a host name only if their numbers meet or a given name is a generated one.
-/

namespace SitePlan

open Cabling Hardware

namespace Hardware.Record

/-- The host names of the node that a record is of. -/
def hostNames (r : Record) : List String := (r.node?.map NodeProperties.aliases).getD []

/-- The first host name of the node that a record is of. That of an application node does not
count, which has no other names than those that the site gives to it. -/
def firstName? (r : Record) : Option String :=
  r.node?.bind fun p => if p.role = .application then none else p.aliases.head?

end Hardware.Record

/-- The host name that is generated for a node: that of a management node from its role and its
number, that of a compute node from its number. Other nodes have none. -/
def Cabling.NodeKind.generatedName? : NodeKind → Option String
  | .management role number => some (role.hostName number)
  | .compute nid => some (Synthesis.nidName nid)
  | _ => none

namespace Synthesis

/-- The host name of a management node. -/
def managementName (node : ManagementRole × UInt32) : String := node.1.hostName node.2

/-- The host names that are generated for the nodes of a site. -/
def generatedNames (inputs : Inputs) (first : UInt64) (rows : List Row) : List String :=
  (managementNodes inputs.applicationNodes rows).map managementName ++
    (computeNids inputs.applicationNodes rows ++
      liquidCooledNids first inputs.cabinets).map nidName

/-- Compute nodes of different numbers have different host names. -/
theorem nidName_inj {a b : UInt64} : nidName a = nidName b ↔ a = b := by
  rw [nidName, nidName, String.append_right_inj, Text.padText_inj, UInt64.toNat_inj]

/-- Management nodes of different roles or numbers have different host names. -/
theorem managementName_inj {a b : ManagementRole × UInt32} :
    managementName a = managementName b ↔ a = b := by
  obtain ⟨role, number⟩ := a
  obtain ⟨role', number'⟩ := b
  refine ⟨fun h => ?_, fun h => h ▸ rfl⟩
  have hletters := congrArg String.toList h
  simp only [managementName, ManagementRole.hostName, String.toList_append] at hletters
  -- All stems have the same length, so the stems are equal and so are the numbers.
  have hlength : role.hostStem.toList.length = role'.hostStem.toList.length := by
    cases role <;> cases role' <;> simp [ManagementRole.hostStem]
  obtain ⟨hstem, hnumber⟩ := List.append_inj hletters hlength
  have hrole : role = role' := by
    cases role <;> cases role' <;> simp [ManagementRole.hostStem] at hstem ⊢
  have hvalue := Text.padText_inj.mp (String.toList_injective hnumber)
  rw [hrole, UInt32.toNat_inj.mp hvalue]

/-- The host names of management nodes begin with the same letters. -/
theorem take_managementName (node : ManagementRole × UInt32) :
    (managementName node).toList.take 3 = "ncn".toList := by
  obtain ⟨role, number⟩ := node
  simp only [managementName, ManagementRole.hostName, String.toList_append]
  cases role <;> simp [ManagementRole.hostStem]

/-- No management node has the host name of a compute node. -/
theorem managementName_ne_nidName (node : ManagementRole × UInt32) (nid : UInt64) :
    managementName node ≠ nidName nid := by
  intro h
  have hletters := take_managementName node
  simp [h, nidName] at hletters

/-- The generated names are different exactly if management nodes differ in role or number
and compute nodes in their number. -/
theorem nodup_generatedNames {inputs : Inputs} {first : UInt64} {rows : List Row} :
    (generatedNames inputs first rows).Nodup ↔
      (managementNodes inputs.applicationNodes rows).Nodup ∧
        (computeNids inputs.applicationNodes rows ++
          liquidCooledNids first inputs.cabinets).Nodup := by
  have hmanagement : Function.Injective managementName := fun _ _ => managementName_inj.mp
  have hcompute : Function.Injective nidName := fun _ _ => nidName_inj.mp
  rw [generatedNames, List.nodup_append, List.nodup_map_iff hmanagement,
    List.nodup_map_iff hcompute]
  refine and_congr_right fun _ => and_iff_left ?_
  intro a ha b hb
  obtain ⟨node, _, rfl⟩ := List.mem_map.mp ha
  obtain ⟨nid, _, rfl⟩ := List.mem_map.mp hb
  exact managementName_ne_nidName node nid

/-- What the record of a node says at first has the generated name, and no other. -/
theorem aliases_of_nodeProperties? {nid : UInt64} {kind : NodeKind} {p : NodeProperties}
    (hp : nodeProperties? nid kind = some p) : p.aliases = kind.generatedName?.toList := by
  cases kind <;> cases hp <;> rfl

/-- What a row says of a node has one host name, or none for an application node. -/
def NamedOnce (p : NodeProperties) : Prop :=
  (p.role = .application ∧ p.aliases = []) ∨
    (p.role ≠ .application ∧ ∃ name, p.aliases = [name])

/-- The record of a node has one host name at first, or none. -/
theorem namedOnce_of_nodeProperties? {nid : UInt64} {kind : NodeKind} {p : NodeProperties}
    (hp : nodeProperties? nid kind = some p) : NamedOnce p := by
  cases kind <;> cases hp
  · exact .inr ⟨by simp, _, rfl⟩
  · exact .inr ⟨by simp, _, rfl⟩
  · exact .inl ⟨rfl, rfl⟩

/-- Nodes that rows are recorded as have one host name at first, or none. -/
theorem namedOnce_numberedNodes {nids : NidSequence} {kinds : List NodeKind}
    {p : NodeProperties} (hp : p ∈ numberedNodes nids kinds) : NamedOnce p := by
  induction kinds generalizing nids with
  | nil => cases hp
  | cons kind rest ih =>
    rcases List.mem_append.mp hp with hhead | hrest
    · exact namedOnce_of_nodeProperties? (Option.mem_toList.mp hhead)
    · exact ih hrest

/-- Further host names are added after those that are there. -/
theorem addNames_eq_append (names more : List String) :
    ∃ added, addNames names more = names ++ added := by
  induction more generalizing names with
  | nil => exact ⟨[], by simp [addNames]⟩
  | cons name rest ih =>
    unfold addNames
    split
    · exact ih names
    · obtain ⟨added, hadded⟩ := ih (names ++ [name])
      exact ⟨name :: added, by rw [hadded, List.append_assoc]; rfl⟩

/-- Adding host names keeps those that are there and adds the further ones. -/
theorem mem_addNames {names more : List String} {a : String} :
    a ∈ addNames names more ↔ a ∈ names ∨ a ∈ more := by
  induction more generalizing names with
  | nil => simp [addNames]
  | cons name rest ih =>
    unfold addNames
    rw [ih]
    split
    · next hold =>
      have hmem : name ∈ names := by simpa using hold
      constructor
      · rintro (ha | ha)
        · exact .inl ha
        · exact .inr (List.mem_cons_of_mem _ ha)
      · rintro (ha | ha)
        · exact .inl ha
        · rcases List.mem_cons.mp ha with rfl | ha
          · exact .inl hmem
          · exact .inr ha
    · simp [or_assoc]

/-- The first name of a node in a rack is the one that the row gives. -/
theorem RecordsNode.firstName? {config : ApplicationNode.Config} {p : NodeProperties}
    {r : Record} (hr : RecordsNode config p r) (hp : NamedOnce p) :
    r.firstName? = p.aliases.head? := by
  rw [Record.firstName?, hr.2, Option.bind_some]
  rcases hp with ⟨hrole, hnone⟩ | ⟨hrole, name, hname⟩
  · rw [if_pos hrole, hnone]
    rfl
  · obtain ⟨added, hadded⟩ := addNames_eq_append [name] (config.aliasesFor r.xname)
    rw [if_neg hrole, hname, hadded]
    rfl

/-- A node in a rack has its first name and those that the site gives to its location. -/
theorem RecordsNode.mem_hostNames {config : ApplicationNode.Config} {p : NodeProperties}
    {r : Record} (hr : RecordsNode config p r) (hp : NamedOnce p) {name : String} :
    name ∈ r.hostNames ↔ r.firstName? = some name ∨ name ∈ config.aliasesFor r.xname := by
  rw [hr.firstName? hp, Record.hostNames, hr.2, Option.map_some, Option.getD_some,
    mem_addNames]
  refine or_congr_left ?_
  rcases hp with ⟨_, hnone⟩ | ⟨_, given, hgiven⟩
  · simp [hnone]
  · simp [hgiven, eq_comm]

/-- A node outside racks has the name of its number first. -/
theorem RecordsCounted.firstName? {nid : UInt64} {r : Record}
    (hr : RecordsCounted nid r) : r.firstName? = some (nidName nid) := by
  rw [Record.firstName?, hr.2]
  rfl

/-- The names that rows give are those of management nodes and of compute nodes. -/
theorem filterMap_head?_numberedNodes (nids : NidSequence) (kinds : List NodeKind) :
    ((numberedNodes nids kinds).filterMap (·.aliases.head?)).Perm
      ((kinds.filterMap managementNode?).map managementName ++
        (kinds.filterMap computeNid?).map nidName) := by
  induction kinds generalizing nids with
  | nil => exact .refl _
  | cons kind rest ih =>
    cases kind with
    | management role number =>
      have hrest := (ih (nids.skip 1)).cons (role.hostName number)
      simpa [numberedNodes, nodeProperties?, nidsAfter, managementNode?, computeNid?,
        managementName, List.filterMap_cons] using hrest
    | compute nid =>
      have hrest := ((ih nids).cons (nidName nid)).trans List.perm_middle.symm
      simpa [numberedNodes, nodeProperties?, nidsAfter, managementNode?, computeNid?,
        List.filterMap_cons] using hrest
    | application _ | system | unknown =>
      simpa [numberedNodes, nodeProperties?, nidsAfter, managementNode?, computeNid?,
        List.filterMap_cons] using ih nids

/-- The first names of an inventory's nodes are those that are generated for the site. -/
theorem perm_firstNames_inventory {inputs : Inputs} {first : UInt64} {rows : List Row}
    {filed : Inventory}
    (hok : (inventory inputs (.startingAt first) rows).1 = .ok filed) :
    (filed.values.filterMap Record.firstName?).Perm (generatedNames inputs first rows) := by
  have hnames := perm_filterMap_inventory (f := Record.firstName?)
    (g := fun p => p.aliases.head?) (h := fun nid => some (nidName nid)) hok
    (fun r hr => by rw [Record.firstName?, hr]; rfl)
    (fun p hp r hr => hr.firstName? (namedOnce_numberedNodes hp))
    (fun nid r hr => hr.firstName?)
  rw [List.filterMap_eq_map'] at hnames
  apply hnames.trans
  rw [generatedNames, List.map_append, ← List.append_assoc]
  exact (filterMap_head?_numberedNodes _ _).append_right _

end Synthesis

end SitePlan
