import SitePlan.Proofs.Cabinet.Populated
import SitePlan.Proofs.Synthesis.RecordSources
import SitePlan.Proofs.Xname.Templates
import SitePlan.Synthesis.Cabinets

/-!
# Faults of synthesis

A record cannot be made where the location has no parent or the kind no tag. Every record of an
inventory is made at a location with a parent and of a kind with a tag, so synthesis stops at
faults of the site only: in the cabling sheet, in the list of switches, or at two records for
one location.
-/

namespace SitePlan.Synthesis

open Cabling Hardware Outcome Xname

/-- The fault is that a record cannot be made of its location or its kind, which no site should
be able to bring about. -/
def Error.IsInternal : Error → Prop
  | .hardware (.xname _) | .hardware (.unsupported _ _) => True
  | _ => False

/-- The faults that a site can bring about. -/
def Error.IsExternal (fault : Error) : Prop := ¬ fault.IsInternal

/-- Faults of the cabling sheet are the site's. -/
theorem Error.isExternal_cabling (fault : Cabling.Error) : (Error.cabling fault).IsExternal :=
  not_false

/-! ### Making a record -/

section

variable {hardwareClass : Hardware.Class} {properties : Option Properties}

/-- A record is made at every location but the root, if it is recorded as a kind with a tag. -/
theorem exists_createAs {xname : String} {location : Kind} {kind : Option Kind}
    (hlocation : kind? xname = some location) (hroot : location ≠ .system)
    (htag : (kind.bind Tag.ofKind?).isSome = true) :
    ∃ r, Record.createAs xname kind hardwareClass properties = .ok r := by
  obtain ⟨segments, hparse⟩ := kind?_eq_some_iff.mp hlocation
  obtain ⟨tag, htag⟩ := Option.isSome_iff_exists.mp htag
  exact ⟨_, createAs_eq_ok.mpr ⟨_, tag, parent_of_parse? hparse hroot, htag, rfl⟩⟩

/-- The root has no tag. -/
theorem ne_system_of_tag {kind : Kind} (htag : (Tag.ofKind? kind).isSome = true) :
    kind ≠ .system := by
  rintro rfl
  cases htag

/-- A record is made of every location of a kind with a tag. -/
theorem exists_create {xname : String} {kind : Kind} (hlocation : kind? xname = some kind)
    (htag : (Tag.ofKind? kind).isSome = true) :
    ∃ r, Record.create xname hardwareClass properties = .ok r := by
  rw [Record.create, hlocation]
  exact exists_createAs hlocation (ne_system_of_tag htag) htag

/-- A record is made of every component of a kind with a tag. -/
theorem exists_record_of_tag {component : Component}
    (htag : (Tag.ofKind? component.kind).isSome = true) :
    ∃ r, record component hardwareClass properties = .ok r := by
  obtain ⟨r, hr⟩ := exists_create (Component.kind?_toXname component) htag
  exact ⟨r, mapError_eq_ok.mpr hr⟩

end

/-! ### Racks -/

/-- Enclosures that cannot be found or placed are faults of the sheet. -/
theorem failsOnly_enclosuresInto (rows : SortedMap Row) (known : SortedMap UInt32)
    (rest : List Row) : FailsOnly Error.IsExternal (enclosuresInto rows known rest) := by
  induction rest generalizing known with
  | nil => exact failsOnly_ok known
  | cons row rest ih =>
    unfold enclosuresInto
    split
    · split
      · exact failsOnly_error not_false
      · split
        · exact failsOnly_error not_false
        · exact ih _
    · exact ih known

/-- A node in an enclosure that has no place there is a fault of the sheet. -/
theorem failsOnly_enclosureBmc (row : Row) (number : Option UInt64) :
    FailsOnly Error.IsExternal (enclosureBmc row number) := by
  unfold enclosureBmc
  split
  · exact failsOnly_ok _
  · split
    · exact failsOnly_error not_false
    · exact failsOnly_ok _

/-- A node without a place is a fault of the sheet. -/
theorem failsOnly_nodePlace (ctx : RackContext) (row : Row) (number : Option UInt64) :
    FailsOnly Error.IsExternal (nodePlace ctx row number) := by
  unfold nodePlace
  split
  · exact (failsOnly_enclosureBmc row number).bind fun _ _ => failsOnly_ok _
  · exact (failsOnly_mapError Error.isExternal_cabling).bind fun _ _ => failsOnly_ok _

/-- The controller of an enclosure has a record unless its row has no place. -/
theorem failsOnly_enclosureRecord (row : Row) (rack : UInt32) :
    FailsOnly Error.IsExternal (enclosureRecord row rack) := by
  refine (failsOnly_mapError Error.isExternal_cabling).bind fun position _ =>
    failsOnly_of_exists ?_
  let controller := Component.nodeBmc rack 0 position.height enclosureController
  obtain ⟨r, hr⟩ : ∃ r, Record.createAs controller.toXname (some .chassisBmc) .river none = .ok r :=
    exists_createAs (Component.kind?_toXname controller) (by simp [controller, Component.kind]) rfl
  exact ⟨r, mapError_eq_ok.mpr hr⟩

/-- A node has a record unless it has no place. -/
theorem failsOnly_nodeRecord (ctx : RackContext) (row : Row) (rack : UInt32)
    (properties : NodeProperties) :
    FailsOnly Error.IsExternal (nodeRecord ctx row rack properties) :=
  (failsOnly_nodePlace ctx row properties.nid).bind fun _ _ =>
    failsOnly_of_exists (exists_record_of_tag rfl)

/-- A device has a record, or has none by its nature, or has no place. -/
theorem failsOnly_deviceRecord? (ctx : RackContext) (row : Row) (rack : UInt32) (nid : UInt64)
    (device : Device) : FailsOnly Error.IsExternal (deviceRecord? ctx row rack nid device) := by
  unfold deviceRecord?
  split
  · exact failsOnly_ok none
  · exact failsOnly_ok none
  · exact (failsOnly_of_exists (exists_record_of_tag rfl)).bind fun _ _ => failsOnly_ok _
  · exact (failsOnly_of_exists (exists_record_of_tag rfl)).bind fun _ _ => failsOnly_ok _
  · exact (failsOnly_enclosureRecord row rack).bind fun _ _ => failsOnly_ok _
  · split
    · exact (failsOnly_enclosureRecord row rack).bind fun _ _ => failsOnly_ok _
    · split
      · exact (failsOnly_nodeRecord ctx row rack _).bind fun _ _ => failsOnly_ok _
      · exact failsOnly_ok none

/-- A connector has a record if its switch is listed and of a brand that names connectors. -/
theorem failsOnly_connectorRecord (ctx : RackContext) (row : Row) (nic : String) :
    FailsOnly Error.IsExternal (connectorRecord ctx row nic) := by
  refine (failsOnly_mapError Error.isExternal_cabling).bind fun rack _ => ?_
  refine (failsOnly_mapError Error.isExternal_cabling).bind fun slot _ => ?_
  refine (failsOnly_mapError Error.isExternal_cabling).bind fun number _ => ?_
  dsimp only
  split
  · exact failsOnly_error not_false
  · split
    · exact failsOnly_error not_false
    · exact failsOnly_of_exists (exists_record_of_tag rfl)

/-- The records of a row in a rack are made unless the row is at fault. -/
theorem failsOnly_recordsInRack (ctx : RackContext) (row : Row) (rack : UInt32) (nid : UInt64)
    (device : Device) : FailsOnly Error.IsExternal (recordsInRack ctx row rack nid device) := by
  refine (failsOnly_deviceRecord? ctx row rack nid device).bind fun made _ => ?_
  cases made with
  | none => exact failsOnly_ok []
  | some r =>
    dsimp only
    split
    · exact (failsOnly_connectorRecord ctx row _).bind fun _ _ => failsOnly_ok _
    · exact failsOnly_ok [r]

/-- The records of a row are made unless the row is at fault. -/
theorem failsOnly_rowRecords (ctx : RackContext) (nids : NidSequence) (row : Row) :
    FailsOnly Error.IsExternal (rowRecords ctx nids row).1 := by
  unfold rowRecords
  split
  · exact failsOnly_error not_false
  · exact failsOnly_ok []
  · exact failsOnly_ok []
  · split
    · exact failsOnly_error not_false
    · exact failsOnly_recordsInRack ctx row _ _ _

/-- The records of rows are made unless a row is at fault. -/
theorem failsOnly_rowPieces (ctx : RackContext) (nids : NidSequence) (rows : List Row) :
    FailsOnly Error.IsExternal (rowPieces ctx nids rows) := by
  induction rows generalizing nids with
  | nil => exact failsOnly_ok []
  | cons row rest ih =>
    have hrow := failsOnly_rowRecords ctx nids row
    unfold rowPieces
    split
    · next hfault => exact failsOnly_error (hrow _ (congrArg Prod.fst hfault))
    · exact (ih _).map _

/-- The records in racks are made unless the sheet is at fault. -/
theorem failsOnly_rackHardware (inputs : Inputs) (nids : Nids) (rows : List Row) :
    FailsOnly Error.IsExternal (rackHardware inputs nids rows).1 := by
  rw [rackHardware_eq_flatten, rackPieces]
  refine FailsOnly.map ?_ _
  split
  · next hfault => exact failsOnly_error (failsOnly_enclosuresInto _ _ _ _ hfault)
  · exact failsOnly_rowPieces _ _ _

/-! ### Switches -/

/-- A switch has a class unless the ordinals of its location cannot be read or its cabinet is not
declared. -/
theorem failsOnly_switchClass {P : Error → Prop} {cabinetIds : List UInt32} {xname : String}
    (hread : FailsOnly (fun fault => P (.location fault)) (ordinals xname))
    (hmissing : ∀ cabinet, P (.missingCabinet xname cabinet)) :
    FailsOnly P (switchClass cabinetIds xname) := by
  unfold switchClass
  split
  · exact failsOnly_ok _
  · split
    · next hfault => exact failsOnly_error (hread _ hfault)
    · dsimp only
      split
      · exact failsOnly_ok _
      · exact failsOnly_error (hmissing _)

/-- Every switch whose location suits its role can be recorded: what is found to be valid is so in
its canonical spelling too. -/
theorem exists_create_of_validate {s : Switch} (hvalid : s.validate = .ok ())
    (hardwareClass : Hardware.Class) (properties : Option Properties) :
    ∃ r, Record.create (normalize s.xname) hardwareClass properties = .ok r := by
  obtain ⟨kind, hallowed, hkind⟩ := kind?_of_validate hvalid
  have htag : (Tag.ofKind? kind).isSome = true := by
    rcases eq_of_mem_allowedKinds hallowed with rfl | rfl | rfl <;> rfl
  exact exists_create (kind?_normalize hkind) htag

/-- A switch has a record unless its location does not suit its role or gives it no class. -/
theorem failsOnly_switchRecord {P : Error → Prop} {cabinetIds : List UInt32} {s : Switch}
    (hsuits : FailsOnly (fun fault => P (.mgmtSwitch fault)) s.validate)
    (hread : s.validate = .ok () →
      FailsOnly (fun fault => P (.location fault)) (ordinals (normalize s.xname)))
    (hmissing : ∀ cabinet, P (.missingCabinet (normalize s.xname) cabinet)) :
    FailsOnly P (switchRecord cabinetIds s) := by
  refine (hsuits.mapError fun _ => id).bind fun _ hvalid => ?_
  have hvalid := mapError_eq_ok.mp hvalid
  refine (failsOnly_switchClass (hread hvalid) hmissing).bind fun hardwareClass _ =>
    failsOnly_of_exists ?_
  obtain ⟨r, hr⟩ := exists_create_of_validate hvalid hardwareClass
    (some (.mgmtSwitch (switchProperties s (normalize s.xname))))
  exact ⟨r, mapError_eq_ok.mpr hr⟩

/-! ### The inventory -/

/-- Records are filed up to the first one whose location has a record. -/
theorem duplicateXname_of_addAll {filed later : Inventory} {records : List Record}
    {fault : Hardware.Error} (hadd : filed.addAll records = (.error fault, later)) :
    ∃ xname, fault = .duplicateXname xname := by
  induction records generalizing filed with
  | nil => cases hadd
  | cons r rest ih =>
    unfold Inventory.addAll at hadd
    split at hadd
    · next hfault =>
      obtain ⟨hsame, _⟩ := Prod.mk.inj hadd
      obtain rfl := Except.error.inj hsame
      unfold Inventory.add at hfault
      split at hfault
      · exact ⟨r.xname, (Except.error.inj hfault).symm⟩
      · cases hfault
    · exact ih hadd

/-- Records that must be new are filed unless two are of one location. -/
theorem failsOnly_file (filed : Inventory) (records : List Record) :
    FailsOnly Error.IsExternal (file filed records) := by
  unfold file
  split
  · exact failsOnly_ok _
  · next hadd =>
    obtain ⟨xname, rfl⟩ := duplicateXname_of_addAll hadd
    exact failsOnly_error not_false

/-- An inventory is made unless the site is at fault. -/
theorem failsOnly_inventory (inputs : Inputs) (nids : Nids) (rows : List Row) :
    FailsOnly Error.IsExternal (inventory inputs nids rows).1 := by
  have hswitches : FailsOnly Error.IsExternal (switchHardware inputs >>= file .empty) :=
    (failsOnly_mapM fun _ _ => failsOnly_switchRecord (fun _ _ => not_false)
      (fun _ _ _ => not_false) fun _ => not_false).bind fun _ _ => failsOnly_file _ _
  unfold inventory
  split
  · next hfault => exact failsOnly_error (hswitches _ hfault)
  next first _ =>
  have hracks : FailsOnly Error.IsExternal ((rackHardware inputs nids rows).1 >>= file first) :=
    (failsOnly_rackHardware inputs nids rows).bind fun _ _ => failsOnly_file _ _
  dsimp only
  split
  · next hfault => exact failsOnly_error (hracks _ hfault)
  next second _ =>
  obtain ⟨cabinets, hcabinets, _⟩ := exists_forall₂_isRecordOf inputs
    (rackHardware inputs nids rows).2
  exact (failsOnly_of_exists ⟨cabinets, hcabinets⟩).bind fun _ _ => failsOnly_file _ _

/-! ### Cabinets -/

/-- The cabinets of valid groups are always recorded, each at its location. -/
theorem exists_cabinetHardware {groups : List Cabinet.Group}
    (hvalid : Cabinet.validate groups = .ok ()) (networks : SortedMap Network) :
    ∃ cabinets, cabinetHardware groups networks = .ok cabinets ∧
      cabinets.map Record.xname = (groups.flatMap Cabinet.Group.cabinetIds).map fun id =>
        (Component.cabinet id).toXname := by
  have hrecord : ∀ place : Hardware.Class × Cabinet.Detail, ∃ r,
      cabinetRecord networks place.1 place.2 = .ok r ∧
        (Component.cabinet place.2.id).toXname = r.xname := by
    intro place
    obtain ⟨r, hr⟩ : ∃ r, cabinetRecord networks place.1 place.2 = .ok r :=
      exists_record_of_tag rfl
    exact ⟨r, hr, (record_spec hr).1.symm⟩
  obtain ⟨cabinets, hok, hplaces⟩ := exists_mapM_eq_ok fun place _ => hrecord place
  refine ⟨cabinets, hok, ?_⟩
  rw [← map_eq_map_of_forall₂ hplaces, List.map_flatMap, List.map_flatMap]
  refine List.flatMap_congr fun g hg => ?_
  obtain ⟨hardwareClass, hclass⟩ := Option.isSome_iff_exists.mp
    ((Cabinet.validate_eq_ok.mp hvalid).1 g hg)
  simp [hclass, Cabinet.Group.cabinetIds]

end SitePlan.Synthesis
