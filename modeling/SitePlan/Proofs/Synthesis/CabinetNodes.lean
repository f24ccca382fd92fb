import SitePlan.Proofs.Synthesis.RackNodes
import SitePlan.Synthesis.LiquidCooled
import SitePlan.Synthesis.Switches

/-!
# Node records of liquid-cooled cabinets

Every node of a liquid-cooled cabinet takes the next number, so that the numbers are counted on
from node to node and from chassis to chassis. All the records are made, each of its component.
Switches have no records of nodes.
-/

namespace SitePlan.Synthesis

open Hardware Outcome Xname

/-- So many numbers from the first one on. -/
def countedNids (first : UInt64) (count : Nat) : List UInt64 :=
  (List.range count).map fun i => first + i.toUInt64

/-- The record is of a compute node with this number outside racks. -/
def RecordsCounted (nid : UInt64) (r : Record) : Prop :=
  r.hardwareClass ≠ .river ∧ r.node? = some (computeNode nid)

/-- A chassis, its controller, and its nodes by slot, board controller and node. -/
def chassisComponents (cabinet chassis : UInt32) : List Component :=
  .chassis cabinet chassis :: .chassisBmc cabinet chassis 0 ::
    (List.range 8).flatMap fun slot => (List.range 2).flatMap fun bmc =>
      (List.range 2).map fun node =>
        .node cabinet chassis slot.toUInt32 bmc.toUInt32 node.toUInt32

/-- The record is of this component. -/
structure IsRecordOf (hardwareClass : Hardware.Class) (component : Component) (r : Record) :
    Prop where
  /-- It has the component's location name. -/
  xname_eq : r.xname = component.toXname
  /-- It lies in the component around it. -/
  parent_eq : component.parent?.map Component.toXname = some r.parent
  /-- It is recorded as what the component is. -/
  kind_eq : r.kind = some component.kind
  /-- It has the tag of the component's kind. -/
  tag_eq : Tag.ofKind? component.kind = some r.tag
  /-- It is of the cabinet's class. -/
  class_eq : r.hardwareClass = hardwareClass
  /-- It has properties exactly if it is of a node. -/
  properties_eq : if component.kind = .node then r.node?.isSome = true else r.properties = none

/-! ### Numbers are counted -/

/-- Counting goes on from where it stopped. -/
theorem countedNids_add (first : UInt64) (count more : Nat) :
    countedNids first (count + more) =
      countedNids first count ++ countedNids (first + count.toUInt64) more := by
  simp only [countedNids, List.range_add, List.map_append, List.map_map]
  congr 1
  refine List.map_congr_left fun i _ => ?_
  simp only [Function.comp_apply, Nat.toUInt64_eq, UInt64.ofNat_add]
  rw [UInt64.add_assoc]

/-- Counting in steps of one size is counting all at once. -/
theorem countedNids_mul (nids : NidSequence) (count steps : Nat) :
    countedNids nids.next (count * steps) =
      ((List.range steps).map fun i => countedNids (nids.skip (count * i)).next count).flatten := by
  induction steps with
  | zero => rfl
  | succ steps ih => simp [Nat.mul_succ, countedNids_add, List.range_succ, ih, NidSequence.skip]

/-- The numbers that come next, at each place in a run, are counted. -/
theorem map_next_zipIdx {α : Type} (nids : NidSequence) (as : List α) :
    (as.zipIdx.map fun place => (nids.skip (1 * place.2)).next) =
      countedNids nids.next as.length := by
  rw [← Function.comp_def (fun i => (nids.skip (1 * i)).next) Prod.snd, ← List.map_map,
    List.zipIdx_map_snd, ← List.range_eq_range']
  simp [countedNids, NidSequence.skip]

/-! ### Every record is made -/

/-- A record is made of every component that lies in another one and has a tag. -/
theorem exists_record (component : Component) (hardwareClass : Hardware.Class)
    {parent : Component} {tag : Tag} {properties : Option Properties}
    (hparent : component.parent? = some parent) (htag : Tag.ofKind? component.kind = some tag)
    (hproperties : if component.kind = .node then ∃ p, properties = some (.node p)
      else properties = none) :
    ∃ r, record component hardwareClass properties = .ok r ∧
      IsRecordOf hardwareClass component r := by
  refine ⟨⟨parent.toXname, component.toXname, tag, hardwareClass, some component.kind,
    properties⟩, ?_, rfl, ?_, rfl, htag, rfl, ?_⟩
  · simp [record, Record.create, Record.createAs, Component.parent_toXname hparent,
      Component.kind?_toXname, htag, Except.mapError]
  · rw [hparent]
    rfl
  · split at hproperties
    · next hnode =>
      obtain ⟨p, rfl⟩ := hproperties
      rw [if_pos hnode]
      rfl
    · next hother =>
      rw [if_neg hother]
      exact hproperties

/-- The nodes of a chassis by slot, board controller and node. -/
theorem nodePlaces_eq : nodePlaces = (List.range 8).flatMap fun slot =>
    (List.range 2).flatMap fun bmc => (List.range 2).map fun node =>
      (slot.toUInt32, bmc.toUInt32, node.toUInt32) := by
  decide

/-- A chassis has its enclosure, its controller and its nodes. -/
theorem chassisComponents_eq (cabinet chassis : UInt32) :
    chassisComponents cabinet chassis =
      .chassis cabinet chassis :: .chassisBmc cabinet chassis 0 ::
        nodePlaces.map fun (slot, bmc, node) => .node cabinet chassis slot bmc node := by
  simp only [chassisComponents, nodePlaces_eq, List.map_flatMap, List.map_map,
    Function.comp_def]

/-- The records of the enclosure and the controller of a chassis are made, and are not of
nodes. -/
theorem exists_enclosureRecords (hardwareClass : Hardware.Class) (cabinet chassis : UInt32) :
    ∃ records, enclosureRecords hardwareClass cabinet chassis = .ok records ∧
      List.Forall₂ (IsRecordOf hardwareClass)
        [.chassis cabinet chassis, .chassisBmc cabinet chassis 0] records ∧
      nodesOf records = [] := by
  obtain ⟨enclosure, henclosure, hofEnclosure⟩ :=
    exists_record (.chassis cabinet chassis) hardwareClass rfl rfl rfl
  obtain ⟨controller, hcontroller, hofController⟩ :=
    exists_record (.chassisBmc cabinet chassis 0) hardwareClass rfl rfl rfl
  refine ⟨[enclosure, controller], bind_eq_ok.mpr ⟨_, henclosure, bind_eq_ok.mpr ⟨_, hcontroller,
    rfl⟩⟩, .cons hofEnclosure (.cons hofController .nil), ?_⟩
  have henclosure' := node?_eq_none_of_properties (record_spec henclosure).2.2
  have hcontroller' := node?_eq_none_of_properties (record_spec hcontroller).2.2
  simp [nodesOf, henclosure', hcontroller']

/-- The record of a node is made, and takes the next number. -/
theorem exists_nodeRecords {hardwareClass : Hardware.Class} (hclass : hardwareClass ≠ .river)
    (cabinet chassis : UInt32) (nids : NidSequence) (place : UInt32 × UInt32 × UInt32) :
    ∃ piece, nodeRecords hardwareClass cabinet chassis nids place = (.ok piece, nids.skip 1) ∧
      ∃ r, piece = [r] ∧
        IsRecordOf hardwareClass (.node cabinet chassis place.1 place.2.1 place.2.2) r ∧
        RecordsCounted nids.next r := by
  obtain ⟨slot, bmc, node⟩ := place
  obtain ⟨r, hr, hof⟩ : ∃ r, record (.node cabinet chassis slot bmc node) hardwareClass
      (some (.node (computeNode nids.next))) = .ok r ∧ IsRecordOf hardwareClass _ r :=
    exists_record _ hardwareClass rfl rfl ⟨_, rfl⟩
  refine ⟨[r], ?_, r, rfl, hof, hof.class_eq ▸ hclass, ?_⟩
  · simp only [nodeRecords, NidSequence.take, hr]
    rfl
  · rw [Record.node?, (record_spec hr).2.2]

/-- Pieces of one record each make up a list of these records. -/
theorem forall₂_flatten_of_single {α : Type} {R : α → Record → Prop} {as : List α}
    {pieces : List (List Record)}
    (hpieces : List.Forall₂ (fun a piece => ∃ r, piece = [r] ∧ R a r) as pieces) :
    List.Forall₂ R as pieces.flatten := by
  induction hpieces with
  | nil => exact .nil
  | cons hpiece _ ih =>
    obtain ⟨r, rfl, hr⟩ := hpiece
    exact .cons hr ih

/-- The records of the nodes of a chassis are made, numbered from the next number on. -/
theorem exists_recordsOfEach_nodeRecords {hardwareClass : Hardware.Class}
    (hclass : hardwareClass ≠ .river) (cabinet chassis : UInt32) (nids : NidSequence) :
    ∃ nodes, recordsOfEach (nodeRecords hardwareClass cabinet chassis) nids nodePlaces =
        (.ok nodes, nids.skip nodePlaces.length) ∧
      List.Forall₂ (IsRecordOf hardwareClass)
        (nodePlaces.map fun (slot, bmc, node) => .node cabinet chassis slot bmc node) nodes ∧
      List.Forall₂ RecordsCounted (countedNids nids.next nodePlaces.length) nodes := by
  obtain ⟨pieces, hrun, hpieces⟩ := exists_recordsOfEach
    (fun nids place _ => exists_nodeRecords hclass cabinet chassis nids place) nids 0
  rw [Nat.mul_zero, NidSequence.skip_zero, Nat.zero_add, Nat.one_mul] at hrun
  have hnodes := forall₂_flatten_of_single hpieces
  refine ⟨pieces.flatten, hrun, ?_, ?_⟩
  · rw [← List.zipIdx_map_fst 0 nodePlaces, List.map_map, List.forall₂_map_left_iff]
    exact hnodes.imp fun _ _ hr => hr.1
  · rw [← map_next_zipIdx, List.forall₂_map_left_iff]
    exact hnodes.imp fun _ _ hr => hr.2

/-- Records that are all of nodes are their own nodes. -/
theorem nodesOf_eq_self {nids : List UInt64} {records : List Record}
    (hrecords : List.Forall₂ RecordsCounted nids records) : nodesOf records = records := by
  induction hrecords with
  | nil => rfl
  | @cons _ r _ _ hr _ ih =>
    have hsome : r.node?.isSome = true := by rw [hr.2]; rfl
    rw [nodesOf, List.filter_cons, if_pos hsome]
    exact congrArg _ ih

/-- What the records of a chassis are, whose nodes take the next numbers: they are of its
components, and its nodes have these numbers. -/
def RecordsChassis (nids : NidSequence) (place : Hardware.Class × UInt32 × UInt32)
    (records : List Record) : Prop :=
  List.Forall₂ (IsRecordOf place.1) (chassisComponents place.2.1 place.2.2) records ∧
    List.Forall₂ RecordsCounted (countedNids nids.next nodePlaces.length) (nodesOf records)

/-- The records of a chassis are made, and take as many numbers as it has nodes. -/
theorem exists_chassisRecords {place : Hardware.Class × UInt32 × UInt32}
    (hclass : place.1 ≠ .river) (nids : NidSequence) :
    ∃ records, chassisRecords nids place = (.ok records, nids.skip nodePlaces.length) ∧
      RecordsChassis nids place records := by
  obtain ⟨hardwareClass, cabinet, chassis⟩ := place
  obtain ⟨around, haround, hofAround, hnone⟩ :=
    exists_enclosureRecords hardwareClass cabinet chassis
  obtain ⟨nodes, hnodes, hofNodes, hcounted⟩ :=
    exists_recordsOfEach_nodeRecords hclass cabinet chassis nids
  refine ⟨around ++ nodes, ?_, ?_, ?_⟩
  · simp only [chassisRecords, haround, hnodes]
    rfl
  · rw [chassisComponents_eq]
    exact List.rel_append hofAround hofNodes
  · rw [nodesOf_append, hnone, List.nil_append, nodesOf_eq_self hcounted]
    exact hcounted

/-- The chassis of liquid-cooled cabinets are not of racks. -/
theorem class_ne_river {groups : List Cabinet.Group} {place : Hardware.Class × UInt32 × UInt32}
    (hplace : place ∈ liquidCooledChassis groups) : place.1 ≠ .river := by
  simp only [liquidCooledChassis, List.flatMap_cons, List.flatMap_nil, List.append_nil,
    List.mem_append, List.mem_map] at hplace
  rcases hplace with ⟨_, _, rfl⟩ | ⟨_, _, rfl⟩
  · simp
  · simp

/-- The records of liquid-cooled cabinets are made chassis by chassis, each of its component, and
their nodes are numbered from the next number on. -/
theorem exists_liquidCooledHardware (inputs : Inputs) (nids : Nids) :
    ∃ pieces, (liquidCooledHardware inputs nids).1 = .ok pieces.flatten ∧
      List.Forall₂ (fun place piece => List.Forall₂ (IsRecordOf place.1)
        (chassisComponents place.2.1 place.2.2) piece)
        (liquidCooledChassis inputs.cabinets) pieces ∧
      List.Forall₂ RecordsCounted
        (countedNids nids.liquidCooled.next
          (nodePlaces.length * (liquidCooledChassis inputs.cabinets).length))
        (nodesOf pieces.flatten) := by
  obtain ⟨pieces, hrun, hpieces⟩ := exists_recordsOfEach
    (fun nids _ hplace => exists_chassisRecords (class_ne_river hplace) nids) nids.liquidCooled 0
  rw [Nat.mul_zero, NidSequence.skip_zero] at hrun
  refine ⟨pieces, by rw [liquidCooledHardware, hrun], ?_, ?_⟩
  · rw [← List.zipIdx_map_fst 0 (liquidCooledChassis _), List.forall₂_map_left_iff]
    exact hpieces.imp fun _ _ hpiece => hpiece.1
  · rw [countedNids_mul, List.range_eq_range', ← List.zipIdx_map_snd 0 (liquidCooledChassis _),
      List.map_map, nodesOf, List.filter_flatten]
    apply List.rel_flatten
    rw [List.forall₂_map_left_iff, List.forall₂_map_right_iff]
    exact hpieces.imp fun _ _ hpiece => hpiece.2

/-- The records of liquid-cooled cabinets have their nodes, numbered from the first number
on. -/
theorem liquidCooledHardware_spec {inputs : Inputs} {nids : Nids} {records : List Record}
    (hok : (liquidCooledHardware inputs nids).1 = .ok records) :
    List.Forall₂ RecordsCounted
      (countedNids nids.liquidCooled.next
        (nodePlaces.length * (liquidCooledChassis inputs.cabinets).length))
      (nodesOf records) := by
  obtain ⟨pieces, hpieces, _, hcounted⟩ := exists_liquidCooledHardware inputs nids
  obtain rfl := Except.ok.inj (hpieces.symm.trans hok)
  exact hcounted

/-- A record of a liquid-cooled cabinet is of a component of a chassis. -/
theorem exists_isRecordOf {inputs : Inputs} {nids : Nids} {records : List Record}
    (hok : (liquidCooledHardware inputs nids).1 = .ok records) {r : Record} (hr : r ∈ records) :
    ∃ place ∈ liquidCooledChassis inputs.cabinets,
      ∃ component ∈ chassisComponents place.2.1 place.2.2, IsRecordOf place.1 component r := by
  obtain ⟨pieces, hpieces, hcomponents, _⟩ := exists_liquidCooledHardware inputs nids
  obtain rfl := Except.ok.inj (hpieces.symm.trans hok)
  obtain ⟨piece, hpiece, hr⟩ := List.mem_flatten.mp hr
  obtain ⟨place, hplace, hpiece⟩ := exists_of_forall₂ hcomponents hpiece
  obtain ⟨component, hcomponent, hof⟩ := exists_of_forall₂ hpiece hr
  exact ⟨place, hplace, component, hcomponent, hof⟩

/-- The components of a chassis are an enclosure, a controller and nodes. -/
theorem kind_of_mem_chassisComponents {cabinet chassis : UInt32} {component : Component}
    (hmem : component ∈ chassisComponents cabinet chassis) :
    component.kind ∈ [Kind.chassis, .chassisBmc, .node] := by
  rw [chassisComponents_eq, List.mem_cons, List.mem_cons, List.mem_map] at hmem
  rcases hmem with rfl | rfl | ⟨_, _, rfl⟩ <;> simp [Component.kind]

/-- The records of switches are not of nodes. -/
theorem nodesOf_switchHardware {inputs : Inputs} {records : List Record}
    (hok : switchHardware inputs = .ok records) : nodesOf records = [] := by
  refine List.filter_eq_nil_iff.mpr fun r hr => ?_
  obtain ⟨s, _, hs⟩ := exists_of_forall₂ (mapM_eq_ok.mp hok) hr
  obtain ⟨_, _, hs⟩ := bind_eq_ok.mp hs
  obtain ⟨hardwareClass, _, hs⟩ := bind_eq_ok.mp hs
  obtain ⟨_, _, hproperties⟩ := createAs_spec (mapError_eq_ok.mp hs)
  simp [Record.node?, hproperties]

end SitePlan.Synthesis
