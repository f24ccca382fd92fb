import SitePlan.Proofs.Plan.CabinetCoverage
import SitePlan.Proofs.Synthesis.RecordFaults

/-!
# Records of the cabinets around hardware

The location of most hardware begins with a cabinet, and a plan records the cabinets that the
site declares. Switches must stand in declared cabinets, but the racks of devices are taken
from the cabling sheet as they are. So every cabinet around hardware has a record exactly if the
sheet names declared racks only.
-/

namespace SitePlan.Plan

open Hardware Outcome Synthesis Xname

/-- Where the location of a record begins with a cabinet, that cabinet has a record. -/
def RecordsCabinets (plan : Plan) : Prop :=
  ∀ r ∈ plan.hardware.values, ∀ digits inner,
    segments? r.xname = some (⟨'x', digits⟩ :: inner) →
      ∃ c, plan.hardware.get? (render [⟨'x', digits⟩]) = some c ∧ c.kind = some .cabinet

/-- Every row that is not skipped names a rack that the site declares. -/
def DeclaresRacks (site : Site) : Prop :=
  ∀ row ∈ site.rows, ¬ IsSkipped site.applicationNodes site.rows row →
    ∃ id ∈ site.cabinets.flatMap Cabinet.Group.cabinetIds,
      row.rack "rack" row.sourceRack = .ok id

section

variable {site : Site} {options : Options} {plan : Plan}

/-- A declared cabinet has a record. -/
theorem exists_cabinet_of_declared (hvalid : Cabinet.validate site.cabinets = .ok ())
    (hok : generate site options = .ok plan) {id : UInt32}
    (hid : id ∈ site.cabinets.flatMap Cabinet.Group.cabinetIds) :
    ∃ c, plan.hardware.get? (Component.cabinet id).toXname = some c ∧ c.kind = some .cabinet := by
  obtain ⟨g, hg, hid⟩ := List.mem_flatMap.mp hid
  obtain ⟨d, hd, rfl⟩ := List.mem_map.mp hid
  obtain ⟨hardwareClass, hclass⟩ := Option.isSome_iff_exists.mp
    ((Cabinet.validate_eq_ok.mp hvalid).1 g hg)
  obtain ⟨c, hc, hrecord⟩ := exists_cabinetRecord hok hg hd hclass
  exact ⟨c, hc, kind_record hrecord⟩

/-- The records of cabinets are those of declared cabinets. -/
theorem exists_id_of_mem_cabinetHardware {groups : List Cabinet.Group}
    {networks : SortedMap Network} {cabinets : List Record}
    (hvalid : Cabinet.validate groups = .ok ())
    (hok : cabinetHardware groups networks = .ok cabinets) {r : Record} (hr : r ∈ cabinets) :
    ∃ id ∈ groups.flatMap Cabinet.Group.cabinetIds, (Component.cabinet id).toXname = r.xname := by
  obtain ⟨found, hfound, hxnames⟩ := exists_cabinetHardware hvalid networks
  obtain rfl := Except.ok.inj (hfound.symm.trans hok)
  exact List.mem_map.mp (hxnames ▸ List.mem_map_of_mem hr)

/-- A record whose location begins with a cabinet lies in a declared cabinet, or it is that of a
device in the rack that its row names. -/
theorem exists_id_of_segments (hvalid : Cabinet.validate site.cabinets = .ok ())
    (hok : generate site options = .ok plan) {r : Record}
    (hr : r ∈ plan.hardware.values) {digits : List Char} {inner : List Segment}
    (hsegments : segments? r.xname = some (⟨'x', digits⟩ :: inner)) :
    ∃ id, render [⟨'x', digits⟩] = (Component.cabinet id).toXname ∧
      (id ∈ site.cabinets.flatMap Cabinet.Group.cabinetIds ∨
        ∃ row ∈ site.rows, ¬ IsSkipped site.applicationNodes site.rows row ∧
          row.rack "rack" row.sourceRack = .ok id) := by
  obtain ⟨hardware, cabinets, hhardware, _, hcabinets, hadd⟩ := generate_spec hok
  obtain ⟨hfiled, switches, _, _, _, hswitches, _⟩ := inventory_spec hhardware
  rw [(Inventory.addAll_spec hfiled hadd).2.mem_iff, List.mem_append] at hr
  rcases hr with hr | hr
  · rcases (recordSource_inventory hhardware hr).place hswitches with hfloor | ⟨id, hlies, hid⟩
    · obtain ⟨segments, hparse⟩ := kind?_eq_some_iff.mp hfloor
      obtain ⟨hfound, hdenotes⟩ := parse?_eq_some_iff.mp hparse
      obtain rfl := Option.some.inj (hsegments.symm.trans hfound)
      cases letters_of_kindOfSegments? hdenotes
    · obtain ⟨_, hfound⟩ := hlies.exists_segments
      obtain ⟨hsegment, _⟩ := List.cons.inj (Option.some.inj (hsegments.symm.trans hfound))
      exact ⟨id, by rw [hsegment]; rfl, hid⟩
  · obtain ⟨id, hid, hxname⟩ := exists_id_of_mem_cabinetHardware hvalid hcabinets hr
    have hfound := (parse?_eq_some_iff.mp (Component.cabinet id).parse?_toXname).1
    rw [hxname] at hfound
    obtain ⟨hsegment, _⟩ := List.cons.inj (Option.some.inj (hsegments.symm.trans hfound))
    exact ⟨id, by rw [hsegment]; rfl, .inl hid⟩

/-- Only declared cabinets have a record at the location of a cabinet. -/
theorem declared_of_get? (hvalid : Cabinet.validate site.cabinets = .ok ())
    (hok : generate site options = .ok plan) {id : UInt32} {c : Record}
    (hget : plan.hardware.get? (Component.cabinet id).toXname = some c) :
    id ∈ site.cabinets.flatMap Cabinet.Group.cabinetIds := by
  obtain ⟨hardware, cabinets, hhardware, _, hcabinets, hadd⟩ := generate_spec hok
  obtain ⟨hfiled, hperm⟩ := Inventory.addAll_spec (inventory_spec hhardware).1 hadd
  have hentry := SortedMap.get?_eq_some_iff.mp hget
  have hxname : (Component.cabinet id).toXname = c.xname := hfiled _ hentry
  have hc : c ∈ plan.hardware.values := List.mem_map_of_mem (f := Prod.snd) hentry
  rw [hperm.mem_iff, List.mem_append] at hc
  rcases hc with hc | hc
  · have hplace := kind?_ne_cabinet hhardware hc
    rw [← hxname, Component.kind?_toXname] at hplace
    exact absurd rfl hplace
  · obtain ⟨other, hdeclared, hother⟩ := exists_id_of_mem_cabinetHardware hvalid hcabinets hc
    obtain rfl : id = other :=
      Component.cabinet.inj (Component.toXname_injective (hxname.trans hother.symm))
    exact hdeclared

/-- Rack hardware belongs to declared cabinets: every cabinet that the location of a record begins
with has a record, exactly if every row that is not skipped names a rack that the site
declares. -/
theorem recordsCabinets_iff (hvalid : Cabinet.validate site.cabinets = .ok ())
    (hok : generate site options = .ok plan) : plan.RecordsCabinets ↔ DeclaresRacks site := by
  constructor
  · intro hplan row hrow hkept
    obtain ⟨hardware, _, hhardware, _, _, hadd⟩ := generate_spec hok
    obtain ⟨rack, hrack, r, hr, hlies⟩ := exists_liesIn_of_row hhardware hrow hkept
    have hr : r ∈ plan.hardware.values :=
      (Inventory.addAll_spec (inventory_spec hhardware).1 hadd).2.mem_iff.mpr
        (List.mem_append_left _ hr)
    obtain ⟨inner, hsegments⟩ := hlies.exists_segments
    obtain ⟨c, hc, _⟩ := hplan r hr _ inner hsegments
    exact ⟨rack, declared_of_get? hvalid hok hc, hrack⟩
  · intro hsite r hr digits inner hsegments
    obtain ⟨id, hcabinet, hplace⟩ := exists_id_of_segments hvalid hok hr hsegments
    rw [hcabinet]
    rcases hplace with hdeclared | ⟨row, hrow, hkept, hrack⟩
    · exact exists_cabinet_of_declared hvalid hok hdeclared
    · obtain ⟨rack, hdeclared, hfound⟩ := hsite row hrow hkept
      obtain rfl := Except.ok.inj (hfound.symm.trans hrack)
      exact exists_cabinet_of_declared hvalid hok hdeclared

end

/-- A compute node in a rack of this name, and one declared cabinet. -/
def rackSite (rack : String) : Site where
  cabinets := [Cabinet.Group.populate { kind := "river", total := 1, startingId := 3000 }]
  rows := [{ source := "nid000001", sourceRack := rack, sourceLocation := "u19" }]

/-- The cabinet around a node in a declared rack has a record, however the rack is spelled. -/
theorem recordsCabinets_rackSite :
    Cabinet.validate (rackSite " X03000").cabinets = .ok () ∧
      ∃ plan, generate (rackSite " X03000") {} = .ok plan ∧ plan.RecordsCabinets := by
  have hvalid : Cabinet.validate (rackSite " X03000").cabinets = .ok () := by decide +kernel
  obtain ⟨plan, hok⟩ : ∃ plan, generate (rackSite " X03000") {} = .ok plan :=
    exists_of_isOk (by decide +kernel)
  refine ⟨hvalid, plan, hok, (recordsCabinets_iff hvalid hok).mpr ?_⟩
  intro row hrow _
  obtain rfl := List.mem_singleton.mp hrow
  exact ⟨3000, by decide, by decide +kernel⟩

/-- Not every cabinet around hardware has a record: the rack of a node need not be declared. -/
theorem not_forall_recordsCabinets :
    ¬ ∀ (site : Site) (options : Options) (plan : Plan),
      Cabinet.validate site.cabinets = .ok () → generate site options = .ok plan →
        plan.RecordsCabinets := by
  intro hall
  have hvalid : Cabinet.validate (rackSite "x4000").cabinets = .ok () := by decide +kernel
  obtain ⟨plan, hok, hchecked⟩ : ∃ plan, generate (rackSite "x4000") {} = .ok plan ∧
      decide ("x4000c0s19b0n0" ∈ plan.hardware.values.map Record.xname ∧
        plan.hardware.get? "x4000" = none) = true :=
    exists_of_toOption_any (by decide +kernel)
  obtain ⟨hnode, hnone⟩ := of_decide_eq_true hchecked
  obtain ⟨r, hr, hxname⟩ := List.mem_map.mp hnode
  have hsegments : segments? r.xname = some (⟨'x', ['4', '0', '0', '0']⟩ ::
      [⟨'c', ['0']⟩, ⟨'s', ['1', '9']⟩, ⟨'b', ['0']⟩, ⟨'n', ['0']⟩]) := by
    rw [hxname]
    decide +kernel
  obtain ⟨c, hc, _⟩ := hall _ _ plan hvalid hok r hr _ _ hsegments
  rw [show render [⟨'x', ['4', '0', '0', '0']⟩] = "x4000" by decide +kernel, hnone] at hc
  cases hc

end SitePlan.Plan
