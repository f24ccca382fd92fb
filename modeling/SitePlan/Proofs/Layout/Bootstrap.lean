import SitePlan.Proofs.Layout.Networks
import SitePlan.Proofs.Subnet.Requests

/-!
# The subnet in which machines start

The subnet in which machines start is the first one of its network, also after the network
was widened. Its reservations are the fixed ones and those of the management nodes.
-/

namespace SitePlan

open Outcome

/-- Fixing an address gives no name but its own a reservation. -/
theorem Subnet.reservedNames_pin {s t : Subnet} {name comment : String} {octet : UInt8}
    {r : Reservation} (hpin : s.pin name comment octet = .ok (r, t)) :
    ∀ x ∈ t.reservedNames, x ∈ s.reservedNames ∨ x = name := by
  unfold pin at hpin
  split at hpin
  · cases hpin
    exact fun x hx => .inl hx
  · unfold reserveFree at hpin
    split at hpin
    · cases hpin
    · cases hpin
      simp [reservedNames, Subnet.push]

namespace Layout

open Network

/-- Fixing addresses gives no names but their own reservations. -/
theorem reservedNames_pinAll {s t : Subnet} {pins : List Pin} (hpins : pinAll s pins = .ok t) :
    ∀ x ∈ t.reservedNames, x ∈ s.reservedNames ∨ x ∈ pins.map Pin.name := by
  induction pins generalizing s with
  | nil =>
    cases hpins
    exact fun x hx => .inl hx
  | cons p rest ih =>
    unfold pinAll at hpins
    split at hpins
    · cases hpins
    · next hpin =>
      intro x hx
      rcases ih hpins x hx with hold | hrest
      · rcases Subnet.reservedNames_pin hpin x hold with hold | rfl
        · exact .inl hold
        · exact .inr List.mem_cons_self
      · exact .inr (List.mem_cons_of_mem _ hrest)

/-- Widening a network keeps the names and the reservations of its subnets. -/
theorem lookup_applySupernet {n : Network} {name : String} {s : Subnet}
    (hlookup : n.lookup name = .ok s) :
    ∃ t, n.applySupernet.lookup name = .ok t ∧ t.reservations = s.reservations := by
  unfold lookup at hlookup
  split at hlookup
  · next found hfound =>
    cases hlookup
    have hname : ∀ t : Subnet, (if t.name ∈ supernetSubnets then t.widen n.cidr else t).name =
        t.name := by
      intro t
      split <;> rfl
    have hkept : (if s.name ∈ supernetSubnets then s.widen n.cidr else s).reservations =
        s.reservations := by
      split <;> rfl
    refine ⟨_, ?_, hkept⟩
    simp only [lookup, applySupernet, List.find?_map, Function.comp_def, hname, hfound,
      Option.map_some]
  · cases hlookup

/-- A network whose layout has a subnet in which machines start has it with the fixed
reservations and those of the management nodes, which are in order. -/
theorem lookup_bootstrap {l : Layout} {inputs : Inputs} {n : Network} (hl : l.WellFormed)
    (hbits : l.bootstrapBits ≠ none) (hbuild : l.build inputs = .ok n) :
    ∃ pinned named s, (∀ x ∈ pinned.reservedNames, x ∈ l.pins.map Pin.name) ∧
      l.addressNodes inputs l.template.name pinned = .ok named ∧ named.WellReserved ∧
      n.lookup "bootstrap_dhcp" = .ok s ∧ s.reservations = named.reservations := by
  obtain ⟨m, hcarve, rfl⟩ := build_eq_ok.mp hbuild
  obtain ⟨_, hbootstrap, hrest⟩ := grown_carveAll hcarve
  obtain ⟨hnone, _⟩ | ⟨bits, s, pinned, named, ranged, hsome, hs, hpins, hnodes, hrange, rfl⟩ :=
    addBootstrap_cases hbootstrap
  · exact absurd hnone hbits
  have hcarved := (carve_spec hs).1
  have hempty : s.reservations = [] := by rw [hcarved.created]; rfl
  have hreserved := reservedFrom_bootstrap hl.pinsFit hl.isEmpty hsome hs hpins hnodes
  have hranged := Subnet.updateDhcpRange_eq hrange
  have hname : ranged.name = "bootstrap_dhcp" := by
    rw [hranged, hreserved.eq_reservations]
    exact hcarved.name_eq
  have hfirst := hrest.lookup (lookup_push hname hcarved.isNew)
  have hsame : ranged.reservations = named.reservations := by rw [hranged]
  have hpinnedNames : ∀ x ∈ pinned.reservedNames, x ∈ l.pins.map Pin.name := by
    intro x hx
    rcases reservedNames_pinAll hpins x hx with hold | hpin
    · simp [Subnet.reservedNames, hempty] at hold
    · exact hpin
  have hwell := hreserved.wellReserved (Subnet.wellReserved_of_reservations_eq_nil hempty)
  split
  · obtain ⟨t, ht, hkept⟩ := lookup_applySupernet hfirst
    exact ⟨pinned, named, t, hpinnedNames, hnodes, hwell, ht, hkept.trans hsame⟩
  · exact ⟨pinned, named, ranged, hpinnedNames, hnodes, hwell, hfirst, hsame⟩

end Layout

end SitePlan
