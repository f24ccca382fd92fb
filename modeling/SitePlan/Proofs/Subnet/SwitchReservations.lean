import SitePlan.Proofs.Subnet.Requests
import SitePlan.Proofs.Switch.Names

/-!
# One address for every switch

Reserving for switches goes role by role and then through the switches to come. The names by which
it goes are different, so every switch and every switch to come gets a reservation of its own.
-/

namespace SitePlan.Subnet

/-- Switches to come have a stem of their own in their names. -/
theorem exists_number_of_mem_spareRequestsFrom {number count : Nat} {name : String}
    (hname : name ∈ (spareRequestsFrom number count).map Prod.fst) :
    ∃ k, name = Switch.numberedName spareStem k := by
  obtain ⟨request, hrequest, rfl⟩ := List.mem_map.mp hname
  obtain ⟨k, _, rfl⟩ := List.mem_map.mp hrequest
  exact ⟨k, Switch.deviceName_eq_numberedName spareStem k⟩

/-- No two switches to come have the same name. -/
theorem nodup_spareRequestsFrom (number count : Nat) :
    ((spareRequestsFrom number count).map Prod.fst).Nodup := by
  rw [spareRequestsFrom, List.map_map]
  refine List.Nodup.map (fun j k hsame => ?_) List.nodup_range'
  rw [Function.comp_apply, Function.comp_apply, Switch.deviceName_eq_numberedName,
    Switch.deviceName_eq_numberedName] at hsame
  exact (Switch.numberedName_inj.mp hsame).2

/-- Switches that were named one after another ask for addresses under names that differ from
each other and from those of the switches to come. -/
theorem nodup_requests_assignNames (switches : List Switch) (spares : Nat) :
    (((SwitchXnames.ofSwitches (Switch.assignNames switches)).requests ++
      spareRequestsFrom 1 spares).map Prod.fst).Nodup := by
  have hperm : ((SwitchXnames.ofSwitches (Switch.assignNames switches)).requests.map
      Prod.fst).Perm ((Switch.assignNames switches).map Switch.hostName) := by
    simpa [Switch.label, Function.comp_def] using
      (Switch.perm_requests_assignNames switches).map Prod.fst
  rw [List.map_append, List.nodup_append']
  refine ⟨?_, nodup_spareRequestsFrom 1 spares, fun name hswitch hspare => ?_⟩
  · exact hperm.nodup_iff.mpr (Switch.nodup_hostNames_assignNamesAfter [] switches)
  · obtain ⟨s, hs, rfl⟩ := List.mem_map.mp (hperm.mem_iff.mp hswitch)
    obtain ⟨number, _, hname⟩ := Switch.exists_number_of_mem hs
    obtain ⟨k, hspare⟩ := exists_number_of_mem_spareRequestsFrom hspare
    -- no role has the stem of the switches to come
    have hstem := (Switch.numberedName_inj.mp (hname.symm.trans hspare)).1
    revert hstem
    cases s.role <;> decide

end SitePlan.Subnet
