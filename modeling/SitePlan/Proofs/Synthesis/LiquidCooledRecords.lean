import Mathlib.Algebra.GroupWithZero.Nat
import Mathlib.Data.List.Nodup
import SitePlan.Proofs.Synthesis.NodeNumbers
import SitePlan.Proofs.Xname.Components

/-!
# The records of liquid-cooled cabinets

The records of liquid-cooled cabinets are fixed by the cabinets file and the first number:
which components have records, in which order they come, and how the nodes among them are
numbered. They are always made, and cabinets with different IDs share no location.
-/

namespace SitePlan.Synthesis

open Hardware Outcome Xname

/-- The cabinets with liquid cooling in the order of the file, the smaller ones first. -/
def cabinetsByClass (groups : List Cabinet.Group) : List (Hardware.Class × Cabinet.Detail) :=
  [Hardware.Class.hill, .mountain].flatMap fun hardwareClass =>
    (groups.filter fun group => group.hardwareClass? = some hardwareClass).flatMap fun group =>
      group.details.map (hardwareClass, ·)

/-- The numbers of the chassis in a cabinet: as many as are declared, counted from zero, and
else the usual ones of the class. -/
def chassisNumbers (hardwareClass : Hardware.Class) (cabinet : Cabinet.Detail) : List Nat :=
  match cabinet.liquidCooledChassis with
  | some count => List.range count.toNat
  | none => if hardwareClass = .hill then [1, 3] else List.range 8

/-- The components in a cabinet, chassis by chassis. -/
def cabinetComponents (hardwareClass : Hardware.Class) (cabinet : Cabinet.Detail) :
    List Component :=
  (chassisNumbers hardwareClass cabinet).flatMap fun chassis =>
    chassisComponents cabinet.id chassis.toUInt32

/-- The components in liquid-cooled cabinets with their classes, cabinet by cabinet. -/
def liquidCooledComponents (groups : List Cabinet.Group) : List (Hardware.Class × Component) :=
  (cabinetsByClass groups).flatMap fun (hardwareClass, cabinet) =>
    (cabinetComponents hardwareClass cabinet).map (hardwareClass, ·)

/-- How many chassis there are in liquid-cooled cabinets. -/
def chassisCount (groups : List Cabinet.Group) : Nat :=
  ((cabinetsByClass groups).map fun (hardwareClass, cabinet) =>
    (chassisNumbers hardwareClass cabinet).length).sum

/-- The chassis of a cabinet have the numbers that are declared or usual. -/
theorem chassisOf_eq (hardwareClass : Hardware.Class) (cabinet : Cabinet.Detail) :
    chassisOf hardwareClass cabinet =
      (chassisNumbers hardwareClass cabinet).map Nat.toUInt32 := by
  unfold chassisOf chassisNumbers
  cases cabinet.liquidCooledChassis with
  | some count => rfl
  | none => cases hardwareClass <;> rfl

/-- The chassis with liquid cooling are those of the cabinets, cabinet by cabinet. -/
theorem liquidCooledChassis_eq (groups : List Cabinet.Group) :
    liquidCooledChassis groups =
      (cabinetsByClass groups).flatMap fun (hardwareClass, cabinet) =>
        (chassisNumbers hardwareClass cabinet).map fun chassis =>
          (hardwareClass, cabinet.id, chassis.toUInt32) := by
  simp only [liquidCooledChassis, cabinetsByClass, chassisOfClass, Cabinet.groupsOfClass,
    chassisOf_eq, List.map_flatMap, List.flatMap_assoc, List.flatMap_map, List.map_map, Function.comp_def]

/-- The components with liquid cooling are those of the chassis, chassis by chassis. -/
theorem liquidCooledComponents_eq (groups : List Cabinet.Group) :
    liquidCooledComponents groups =
      (liquidCooledChassis groups).flatMap fun (hardwareClass, cabinet, chassis) =>
        (chassisComponents cabinet chassis).map (hardwareClass, ·) := by
  simp only [liquidCooledComponents, liquidCooledChassis_eq, cabinetComponents,
    List.map_flatMap, List.flatMap_assoc, List.flatMap_map]

/-- The records of liquid-cooled cabinets are made, each of its component. -/
theorem exists_forall₂_isRecordOf (inputs : Inputs) (nids : Nids) :
    ∃ records, (liquidCooledHardware inputs nids).1 = .ok records ∧
      List.Forall₂ (fun place r => IsRecordOf place.1 place.2 r)
        (liquidCooledComponents inputs.cabinets) records := by
  obtain ⟨pieces, hpieces, hcomponents, _⟩ := exists_liquidCooledHardware inputs nids
  refine ⟨pieces.flatten, hpieces, ?_⟩
  rw [liquidCooledComponents_eq, List.flatMap_def]
  apply List.rel_flatten
  rw [List.forall₂_map_left_iff]
  refine hcomponents.imp fun place piece hpiece => ?_
  exact List.forall₂_map_left_iff.mpr hpiece

/-! ### Nodes are numbered -/

/-- Records of different components have different location names. -/
theorem nodup_xnames {components : List (Hardware.Class × Component)} {records : List Record}
    (hrecords : List.Forall₂ (fun place r => IsRecordOf place.1 place.2 r) components records)
    (hcomponents : (components.map Prod.snd).Nodup) : (records.map Record.xname).Nodup := by
  have hnames : (components.map Prod.snd).map Component.toXname = records.map Record.xname := by
    rw [List.map_map]
    exact map_eq_map_of_forall₂ (hrecords.imp fun _ _ hr => hr.xname_eq.symm)
  rw [← hnames]
  exact hcomponents.map fun _ _ => Component.toXname_injective

end SitePlan.Synthesis
