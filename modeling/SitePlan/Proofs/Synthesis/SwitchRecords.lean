import SitePlan.Proofs.Synthesis.RecordFaults
import SitePlan.Proofs.Text.Respelling

/-!
# Switches that get records

The records of switches are made exactly if every location suits the role of its switch and every
switch in a rack has ordinals that can be read, with that of a declared cabinet first. The switch
of a coolant distribution unit stands on the floor, and its ordinals are not looked at: it gets a
record even where they fit in no component.
-/

namespace SitePlan

namespace Xname

open Outcome

/-! ### Ordinals that are read -/

/-- Padding does not matter for an ordinal. -/
theorem ordinal?_unpadded (segment : Segment) : segment.unpadded.ordinal? = segment.ordinal? := by
  rw [Segment.ordinal?, Segment.unpadded, Text.readNat?_unpad, Segment.ordinal?]

/-- The ordinals of a location name are those of its canonical spelling, and are read in the one
exactly if they are read in the other. -/
theorem ordinals_normalize_eq_ok {s : String} {kind : Kind} {ns : List UInt32}
    (hkind : kind? s = some kind) : ordinals (normalize s) = .ok ns ↔ ordinals s = .ok ns := by
  refine ⟨fun hread => ?_, ordinals_normalize⟩
  obtain ⟨segments, hparse⟩ := kind?_eq_some_iff.mp hkind
  have hnormal := parse?_normalize hparse
  by_cases hroot : kind = .system
  · subst hroot
    simpa only [ordinals, hparse, hnormal] using hread
  · rw [ordinals_of_parse? hnormal hroot, ordinalsOf_eq_ok, List.forall₂_map_left_iff] at hread
    rw [ordinals_of_parse? hparse hroot, ordinalsOf_eq_ok]
    exact hread.imp fun segment n hn => ordinal?_unpadded segment ▸ hn

/-- The ordinals of a location name other than the root are read exactly if they fit in 32 bits
and are written in ASCII digits. -/
theorem exists_ordinals_iff {s : String} {kind : Kind} (hkind : kind? s = some kind)
    (hroot : kind ≠ .system) :
    (∃ ns, ordinals s = .ok ns) ↔ OrdinalsFit s ∧ OrdinalsAscii s := by
  obtain ⟨segments, hparse⟩ := kind?_eq_some_iff.mp hkind
  rw [ordinals_of_parse? hparse hroot, exists_ordinalsOf]
  exact forall_exists_ordinal? (parse?_eq_some_iff.mp hparse).1

/-- Ordinals that are read are the numbers that the digits denote. -/
theorem toNat_ordinals {s : String} {kind : Kind} {ns : List UInt32}
    (hkind : kind? s = some kind) (hroot : kind ≠ .system) (hread : ordinals s = .ok ns) :
    ns.map UInt32.toNat = (ordinalDigits s).map Text.decimalValue := by
  obtain ⟨segments, hparse⟩ := kind?_eq_some_iff.mp hkind
  rw [ordinals_of_parse? hparse hroot, ordinalsOf_eq_ok] at hread
  rw [ordinalDigits, (parse?_eq_some_iff.mp hparse).1, Option.getD_some, List.map_map]
  refine (map_eq_map_of_forall₂ (hread.imp fun segment n hn => ?_)).symm
  exact (ordinal?_eq_some_iff.mp hn).2.2

/-- A location name is read but for ordinals that are out of range. -/
theorem failsOnly_ordinals {s : String} {kind : Kind} (hkind : kind? s = some kind) :
    FailsOnly (fun fault => ∃ digits, fault = .ordinalOutOfRange s digits) (ordinals s) := by
  obtain ⟨segments, hparse⟩ := kind?_eq_some_iff.mp hkind
  have hsegments : ∀ rest, FailsOnly (fun fault => ∃ digits, fault = .ordinalOutOfRange s digits)
      (ordinalsOf s rest) := by
    intro rest
    induction rest with
    | nil => exact failsOnly_ok []
    | cons segment rest ih =>
      unfold ordinalsOf
      split
      · exact failsOnly_error ⟨_, rfl⟩
      · split
        · next hfault => exact failsOnly_error (ih _ hfault)
        · exact failsOnly_ok _
  by_cases hroot : kind = .system
  · subst hroot
    simp only [ordinals, hparse]
    exact failsOnly_ok []
  · rw [ordinals_of_parse? hparse hroot]
    exact hsegments segments

/-- The outermost ordinal of the location is the number of one of these cabinets. -/
def InCabinets (cabinetIds : List UInt32) (s : String) : Prop :=
  ∃ digits ∈ (ordinalDigits s).head?, ∃ id ∈ cabinetIds, id.toNat = Text.decimalValue digits

/-- Every location name has ordinals. -/
theorem ordinalDigits_ne_nil {s : String} {kind : Kind} (hkind : kind? s = some kind) :
    ordinalDigits s ≠ [] := by
  obtain ⟨segments, hparse⟩ := kind?_eq_some_iff.mp hkind
  obtain ⟨hsegments, hdenotes⟩ := parse?_eq_some_iff.mp hparse
  have hletters := letters_of_kindOfSegments? hdenotes
  rw [ordinalDigits, hsegments, Option.getD_some, ne_eq, List.map_eq_nil_iff]
  rintro rfl
  have hsome : kind.letters ≠ [] := by cases kind <;> decide
  exact hsome hletters.symm

/-- Where ordinals are read, the first of them is that of the cabinet. -/
theorem inCabinets_iff {cabinetIds : List UInt32} {s : String} {kind : Kind} {ns : List UInt32}
    (hkind : kind? s = some kind) (hroot : kind ≠ .system) (hread : ordinals s = .ok ns) :
    InCabinets cabinetIds s ↔ ns.headD 0 ∈ cabinetIds := by
  have hvalues := toNat_ordinals hkind hroot hread
  obtain ⟨first, rest, hdigits⟩ := List.exists_cons_of_ne_nil (ordinalDigits_ne_nil hkind)
  rw [hdigits] at hvalues
  cases ns with
  | nil => cases hvalues
  | cons n more =>
    have hfirst : n.toNat = Text.decimalValue first := (List.cons.inj hvalues).1
    simp [InCabinets, hdigits, ← hfirst, UInt32.toNat_inj]

/-- The canonical spelling has readable ordinals with that of one of these cabinets first exactly
if the location fits, is written in ASCII digits and lies in one of the cabinets. -/
theorem exists_ordinals_normalize_iff {cabinetIds : List UInt32} {s : String} {kind : Kind}
    (hkind : kind? s = some kind) (hroot : kind ≠ .system) :
    (∃ ns, ordinals (normalize s) = .ok ns ∧ ns.headD 0 ∈ cabinetIds) ↔
      OrdinalsFit s ∧ OrdinalsAscii s ∧ InCabinets cabinetIds s := by
  simp only [ordinals_normalize_eq_ok hkind]
  rw [← and_assoc, ← exists_ordinals_iff hkind hroot]
  constructor
  · rintro ⟨ns, hread, hdeclared⟩
    exact ⟨⟨ns, hread⟩, (inCabinets_iff hkind hroot hread).mpr hdeclared⟩
  · rintro ⟨⟨ns, hread⟩, hdeclared⟩
    exact ⟨ns, hread, (inCabinets_iff hkind hroot hread).mp hdeclared⟩

end Xname

namespace Synthesis

open Cabling Hardware Outcome Xname

/-! ### One switch -/

/-- What a switch needs to get a record: a location that suits its role and, unless it stands on
the floor, readable ordinals with that of a declared cabinet first. -/
structure Recordable (cabinetIds : List UInt32) (s : Switch) : Prop where
  suits : s.validate = .ok ()
  fits : kind? s.xname ≠ some .cduMgmtSwitch → OrdinalsFit s.xname
  ascii : kind? s.xname ≠ some .cduMgmtSwitch → OrdinalsAscii s.xname
  housed : kind? s.xname ≠ some .cduMgmtSwitch → InCabinets cabinetIds s.xname

/-- What a well-formed list asks of a switch: a location that suits its role, ordinals of 32 bits,
and a declared cabinet unless it stands on the floor. -/
structure WellFormed (cabinetIds : List UInt32) (s : Switch) : Prop where
  suits : s.validate = .ok ()
  fits : OrdinalsFit s.xname
  housed : kind? s.xname ≠ some .cduMgmtSwitch → InCabinets cabinetIds s.xname

/-- The record of a switch lies at the location in its canonical spelling, and has the class of
its place. -/
structure RecordsSwitch (s : Switch) (r : Record) : Prop where
  xname : r.xname = normalize s.xname
  hardwareClass : r.hardwareClass =
    if kind? s.xname = some .cduMgmtSwitch then .mountain else .river

/-- Switches do not lie at the root. -/
theorem ne_system_of_mem_allowedKinds {role : Switch.Role} {kind : Kind}
    (hallowed : kind ∈ role.allowedKinds) : kind ≠ .system := by
  rintro rfl
  rcases eq_of_mem_allowedKinds hallowed with h | h | h
  · cases h
  · cases h
  · cases h

/-- A switch gets a record exactly if it has what it needs. -/
theorem exists_switchRecord_iff {cabinetIds : List UInt32} {s : Switch} :
    (∃ r, switchRecord cabinetIds s = .ok r) ↔ Recordable cabinetIds s := by
  constructor
  · rintro ⟨r, hok⟩
    obtain ⟨_, hvalid, hok⟩ := bind_eq_ok.mp hok
    obtain ⟨hardwareClass, hclass, _⟩ := bind_eq_ok.mp hok
    have hsuits := mapError_eq_ok.mp hvalid
    obtain ⟨kind, hallowed, hkind⟩ := kind?_of_validate hsuits
    have hhoused := (switchClass_eq_ok.mp hclass).2
    rw [kind?_normalize hkind, ← hkind,
      exists_ordinals_normalize_iff hkind (ne_system_of_mem_allowedKinds hallowed)] at hhoused
    exact ⟨hsuits, fun h => (hhoused h).1, fun h => (hhoused h).2.1, fun h => (hhoused h).2.2⟩
  · rintro ⟨hsuits, hfits, hascii, hhoused⟩
    obtain ⟨kind, hallowed, hkind⟩ := kind?_of_validate hsuits
    obtain ⟨r, hr⟩ := exists_create_of_validate hsuits
      (if kind? (normalize s.xname) = some .cduMgmtSwitch then .mountain else .river)
      (some (.mgmtSwitch (switchProperties s (normalize s.xname))))
    refine ⟨r, bind_eq_ok.mpr ⟨(), mapError_eq_ok.mpr hsuits, ?_⟩⟩
    refine bind_eq_ok.mpr ⟨_, switchClass_eq_ok.mpr ⟨rfl, ?_⟩, mapError_eq_ok.mpr hr⟩
    rw [kind?_normalize hkind, ← hkind,
      exists_ordinals_normalize_iff hkind (ne_system_of_mem_allowedKinds hallowed)]
    exact fun hrack => ⟨hfits hrack, hascii hrack, hhoused hrack⟩

/-- The record of a switch has its location and the class of its place. -/
theorem recordsSwitch_switchRecord {cabinetIds : List UInt32} {s : Switch} {r : Record}
    (hok : switchRecord cabinetIds s = .ok r) : RecordsSwitch s r := by
  obtain ⟨hxname, _⟩ := switchRecord_spec hok
  obtain ⟨_, hvalid, hok⟩ := bind_eq_ok.mp hok
  obtain ⟨hardwareClass, hclass, hok⟩ := bind_eq_ok.mp hok
  obtain ⟨_, hsame, _⟩ := createAs_spec (mapError_eq_ok.mp hok)
  obtain ⟨kind, _, hkind⟩ := kind?_of_validate (mapError_eq_ok.mp hvalid)
  have hplace := (switchClass_eq_ok.mp hclass).1
  rw [kind?_normalize hkind, ← hkind] at hplace
  exact ⟨hxname, hsame.trans hplace⟩

/-! ### The list of switches -/

/-- The cabinets that the site declares. -/
def Inputs.cabinetIds (inputs : Inputs) : List UInt32 :=
  inputs.cabinets.flatMap Cabinet.Group.cabinetIds

/-- All switches get records exactly if each of them has what it needs. -/
theorem exists_switchHardware_iff (inputs : Inputs) :
    (∃ records, switchHardware inputs = .ok records) ↔
      ∀ s ∈ inputs.switches, Recordable inputs.cabinetIds s := by
  constructor
  · rintro ⟨records, hok⟩ s hs
    obtain ⟨r, _, hr⟩ := exists_of_forall₂ (mapM_eq_ok.mp hok).flip hs
    exact exists_switchRecord_iff.mp ⟨r, hr⟩
  · intro hall
    obtain ⟨records, hok, _⟩ := exists_mapM_eq_ok (R := fun _ _ => True) fun s hs => by
      obtain ⟨r, hr⟩ := exists_switchRecord_iff.mpr (hall s hs)
      exact ⟨r, hr, trivial⟩
    exact ⟨records, hok⟩

/-- The fault is that the cabinet of a switch is not declared, or that an ordinal of its location
cannot be read. -/
def Error.IsPlacement : Error → Prop
  | .missingCabinet _ _ | .location (.ordinalOutOfRange _ _) => True
  | _ => False

/-- Where every location suits its switch, the places of switches alone can be at fault. -/
theorem failsOnly_switchHardware {inputs : Inputs}
    (hvalid : ∀ s ∈ inputs.switches, s.validate = .ok ()) :
    FailsOnly Error.IsPlacement (switchHardware inputs) := by
  refine failsOnly_mapM fun s hs => failsOnly_switchRecord ?_ (fun hsuits => ?_) fun _ => trivial
  · rw [hvalid s hs]
    exact failsOnly_ok ()
  · obtain ⟨kind, _, hkind⟩ := kind?_of_validate hsuits
    refine (failsOnly_ordinals (kind?_normalize hkind)).mono ?_
    rintro _ ⟨digits, rfl⟩
    trivial

/-- Which lists of switches are accepted, and what is recorded of them. All switches get records
exactly if each one's location suits its role and each one in a rack has readable ordinals and a
declared cabinet; then there is one record for each, in the order of the list. The lists that are
accepted are the well-formed ones exactly if none is accepted for the sake of a switch on the
floor whose ordinals do not fit, and none is refused because a rack has digits of another
script. -/
theorem switchHardware_accepts_iff (inputs : Inputs) :
    ((∃ records, switchHardware inputs = .ok records) ↔
      ∀ s ∈ inputs.switches, Recordable inputs.cabinetIds s) ∧
    (∀ records, switchHardware inputs = .ok records →
      List.Forall₂ RecordsSwitch inputs.switches records) ∧
    (((∃ records, switchHardware inputs = .ok records) ↔
        ∀ s ∈ inputs.switches, WellFormed inputs.cabinetIds s) ↔
      ((∀ s ∈ inputs.switches, Recordable inputs.cabinetIds s) →
        ∀ s ∈ inputs.switches, OrdinalsFit s.xname) ∧
      ((∀ s ∈ inputs.switches, WellFormed inputs.cabinetIds s) →
        ∀ s ∈ inputs.switches, kind? s.xname ≠ some .cduMgmtSwitch → OrdinalsAscii s.xname)) := by
  have haccepts := exists_switchHardware_iff inputs
  refine ⟨haccepts, fun records hok => ?_, ?_⟩
  · exact (mapM_eq_ok.mp hok).imp fun s r => recordsSwitch_switchRecord
  rw [haccepts]
  constructor
  · intro hsame
    exact ⟨fun hall s hs => (hsame.mp hall s hs).fits,
      fun hall s hs => (hsame.mpr hall s hs).ascii⟩
  · rintro ⟨hfits, hascii⟩
    constructor
    · intro hall s hs
      exact ⟨(hall s hs).suits, hfits hall s hs, (hall s hs).housed⟩
    · intro hall s hs
      exact ⟨(hall s hs).suits, fun _ => (hall s hs).fits, hascii hall s hs, (hall s hs).housed⟩

/-- The switches of the wired site, with a padded one in a rack and two of coolant distribution
units, one of them in a rack as well. -/
def paddedSite : Inputs where
  cabinets := wiredSite.cabinets
  switches := [
    ⟨"x03000c0w014", "", .leafBmc, .dell, "", none⟩,
    ⟨"d0w01", "sw-cdu-001", .cdu, .dell, "", none⟩,
    ⟨"x3000c0h20s1", "sw-cdu-002", .cdu, .aruba, "8325", none⟩]

/-- The switches of the padded site are recorded in their order, each in the class of its
place. -/
theorem switchHardware_accepts_iff_paddedSite :
    ∃ records, switchHardware paddedSite = .ok records ∧
      records.map Record.xname = ["x3000c0w14", "d0w1", "x3000c0h20s1"] ∧
      List.Forall₂ RecordsSwitch paddedSite.switches records := by
  obtain ⟨records, hok, hxnames⟩ : ∃ records, switchHardware paddedSite = .ok records ∧
      decide (records.map Record.xname = ["x3000c0w14", "d0w1", "x3000c0h20s1"]) = true :=
    exists_of_toOption_any (by decide +kernel)
  exact ⟨records, hok, of_decide_eq_true hxnames,
    (switchHardware_accepts_iff paddedSite).2.1 records hok⟩

/-- A coolant distribution unit whose number has no 32 bits. -/
def oversizedSite : Inputs where
  switches := [⟨"d4294967296w0", "sw-cdu-001", .cdu, .dell, "", none⟩]

/-- Lists are accepted that are not well formed: the ordinals of a switch on the floor are not
looked at. -/
theorem not_forall_accepts_wellFormed :
    ¬∀ inputs : Inputs, (∃ records, switchHardware inputs = .ok records) ↔
      ∀ s ∈ inputs.switches, WellFormed inputs.cabinetIds s := by
  intro hsame
  have hfits := ((hsame oversizedSite).mp (exists_of_isOk (by decide +kernel)) _
    List.mem_cons_self).fits
  have hlarge : ¬OrdinalsFit "d4294967296w0" := by
    unfold OrdinalsFit
    decide +kernel
  exact hlarge hfits

end Synthesis

end SitePlan
