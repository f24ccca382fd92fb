import Mathlib.Data.List.Nodup
import SitePlan.Proofs.Address.Blocks
import SitePlan.Subnet.Groups

/-!
# Reservations stay apart

Reserving grants addresses strictly inside a subnet, never the gateway's and never one that
is reserved, each under a name of its own. What was granted is not changed later, apart from
the further names of a reservation.
-/

namespace SitePlan.Subnet

/-- The names with reservations, in the order of the reservations. -/
def reservedNames (s : Subnet) : List String := s.reservations.map Reservation.name

/-- What holds of the reservations of a subnet. -/
structure WellReserved (s : Subnet) : Prop where
  /-- Reserved addresses lie strictly between the ends of the block. -/
  inside : ∀ a ∈ s.reservedAddresses, s.cidr.first < a.value ∧ a.value < s.cidr.last
  /-- The gateway's address is not reserved. -/
  notGateway : s.gateway ∉ s.reservedAddresses
  /-- No address is reserved twice. -/
  distinct : s.reservedAddresses.Nodup
  /-- No name has two reservations. -/
  names : s.reservedNames.Nodup

/-- A reservation that a subnet can add to its own. -/
structure Grants (s : Subnet) (r : Reservation) : Prop where
  /-- The name has no reservation. -/
  isNew : r.name ∉ s.reservedNames
  /-- The address lies strictly between the ends of the block. -/
  inside : s.cidr.first < r.address.value ∧ r.address.value < s.cidr.last
  /-- The address is not the gateway's. -/
  notGateway : r.address ≠ s.gateway
  /-- The address is not reserved. -/
  free : r.address ∉ s.reservedAddresses

/-- Nothing is amiss where nothing is reserved. -/
theorem wellReserved_of_reservations_eq_nil {s : Subnet} (hnone : s.reservations = []) :
    s.WellReserved := by
  constructor <;> simp [hnone, reservedAddresses, reservedNames]

/-- Only the block, the gateway and the reserved addresses and names matter. -/
theorem WellReserved.congr {s t : Subnet} (hs : s.WellReserved) (hcidr : t.cidr = s.cidr)
    (hgateway : t.gateway = s.gateway) (haddresses : t.reservedAddresses = s.reservedAddresses)
    (hnames : t.reservedNames = s.reservedNames) : t.WellReserved := by
  constructor
  · rw [haddresses, hcidr]
    exact hs.inside
  · rw [haddresses, hgateway]
    exact hs.notGateway
  · rw [haddresses]
    exact hs.distinct
  · rw [hnames]
    exact hs.names

/-- A reservation that is granted keeps the subnet in order. -/
theorem WellReserved.push {s : Subnet} {r : Reservation} (hs : s.WellReserved)
    (hr : s.Grants r) : (s.push r).WellReserved := by
  have haddresses : (s.push r).reservedAddresses = s.reservedAddresses ++ [r.address] := by
    simp [reservedAddresses, Subnet.push]
  have hnames : (s.push r).reservedNames = s.reservedNames ++ [r.name] := by
    simp [reservedNames, Subnet.push]
  constructor
  · rw [haddresses]
    exact List.forall_mem_append.mpr
      ⟨hs.inside, fun a ha => List.mem_singleton.mp ha ▸ hr.inside⟩
  · rw [haddresses]
    intro hmem
    rcases List.mem_append.mp hmem with hold | hnew
    · exact hs.notGateway hold
    · exact hr.notGateway (List.mem_singleton.mp hnew).symm
  · rw [haddresses, List.nodup_append_comm]
    exact List.nodup_cons.mpr ⟨hr.free, hs.distinct⟩
  · rw [hnames, List.nodup_append_comm]
    exact List.nodup_cons.mpr ⟨hr.isNew, hs.names⟩

/-- Renaming a reservation further changes none of what keeps reservations apart. -/
theorem map_modifyReservation {β : Type} (s : Subnet) (name : String)
    (change : Reservation → Reservation) (f : Reservation → β)
    (hkeep : ∀ r, f (change r) = f r) :
    (s.modifyReservation name change).reservations.map f = s.reservations.map f := by
  simp only [modifyReservation]
  induction s.reservations with
  | nil => rfl
  | cons r rest ih =>
    unfold modifyReservation.go
    split
    · simp [hkeep]
    · simp [ih]

/-- The second subnet comes from the first one by granting reservations one after another
and by giving reservations further names. -/
inductive ReservedFrom (s : Subnet) : Subnet → Prop
  | start : ReservedFrom s s
  | push {t : Subnet} {r : Reservation} :
      ReservedFrom s t → t.Grants r → ReservedFrom s (t.push r)
  | rename {t : Subnet} (name : String) (aliases : List String → List String) :
      ReservedFrom s t → ReservedFrom s
        (t.modifyReservation name fun r => { r with aliases := aliases r.aliases })

/-- Reserving goes on from where it stopped. -/
theorem ReservedFrom.trans {s t u : Subnet} (hst : s.ReservedFrom t)
    (htu : t.ReservedFrom u) : s.ReservedFrom u := by
  induction htu with
  | start => exact hst
  | push _ hr ih => exact ih.push hr
  | rename name aliases _ ih => exact ih.rename name aliases

/-- Reserving keeps a subnet in order. -/
theorem ReservedFrom.wellReserved {s t : Subnet} (hst : s.ReservedFrom t)
    (hs : s.WellReserved) : t.WellReserved := by
  induction hst with
  | start => exact hs
  | push _ hr ih => exact ih.push hr
  | rename name aliases _ ih =>
    exact ih.congr rfl rfl (map_modifyReservation _ name _ _ fun _ => rfl)
      (map_modifyReservation _ name _ _ fun _ => rfl)

/-- Reserving changes nothing but the reservations. -/
theorem ReservedFrom.eq_reservations {s t : Subnet} (hst : s.ReservedFrom t) :
    t = { s with reservations := t.reservations } := by
  induction hst with
  | start => rfl
  | @push t r _ _ ih => exact congrArg (fun u : Subnet => u.push r) ih
  | @rename t name aliases _ ih =>
    exact congrArg (fun u : Subnet =>
      u.modifyReservation name fun r => { r with aliases := aliases r.aliases }) ih

/-- A name has no reservation when it is not among the names with reservations. -/
theorem find?_eq_none {s : Subnet} {name : String} :
    s.find? name = none ↔ name ∉ s.reservedNames := by
  simp [find?, reservedNames]

/-- An address is taken when it is the gateway's or reserved. -/
theorem isTaken_eq_false {s : Subnet} {a : Ipv4} :
    s.isTaken a.value = false ↔ a ≠ s.gateway ∧ a ∉ s.reservedAddresses := by
  have hvalue : ∀ b : Ipv4, b.value = a.value ↔ b = a :=
    fun b => ⟨Ipv4.ext_value, congrArg Ipv4.value⟩
  simp only [isTaken, Bool.or_eq_false_iff, decide_eq_false_iff_not, List.any_eq_false,
    decide_eq_true_eq, reservedAddresses, List.mem_map, not_exists, not_and, hvalue]
  rw [eq_comm, hvalue, eq_comm]

/-- The next free address lies strictly inside the subnet and is not taken. -/
theorem nextFree?_spec {s : Subnet} {a : Ipv4} (hnext : s.nextFree? = some a) :
    (s.cidr.first < a.value ∧ a.value < s.cidr.last) ∧
      a ≠ s.gateway ∧ a ∉ s.reservedAddresses := by
  obtain ⟨n, hn, rfl⟩ := Option.map_eq_some_iff.mp hnext
  obtain ⟨hlow, hhigh, hfree⟩ := of_lowestFree hn
  have hfirst := s.cidr.first_le
  have hlast := s.cidr.last_lt
  have hvalue : (Ipv4.clamp n).value = n := Ipv4.value_clamp (by omega)
  rw [← hvalue] at hfree
  refine ⟨?_, isTaken_eq_false.mp hfree⟩
  omega

/-- Reserving gives the reservation that the name has, or else grants a new one. -/
theorem reserve_cases {s t : Subnet} {name comment : String} {r : Reservation}
    (hreserve : s.reserve name comment = .ok (r, t)) :
    (s.find? name = some r ∧ t = s) ∨
      (s.Grants r ∧ r.name = name ∧ r.comment = comment ∧ t = s.push r) := by
  unfold reserve at hreserve
  split at hreserve
  · next found hfound =>
    cases hreserve
    exact .inl ⟨hfound, rfl⟩
  · next hnone =>
    split at hreserve
    · next a hnext =>
      cases hreserve
      obtain ⟨hinside, hgateway, hfree⟩ := nextFree?_spec hnext
      exact .inr ⟨⟨find?_eq_none.mp hnone, hinside, hgateway, hfree⟩, rfl, rfl, rfl⟩
    · cases hreserve

/-- Fixing an address gives the reservation that the name has, or else grants a new one,
as long as the address lies inside the subnet and is not the gateway's. -/
theorem pin_cases {s t : Subnet} {name comment : String} {octet : UInt8} {r : Reservation}
    (hinside : s.cidr.first < (s.pinnedAddress octet).value ∧
      (s.pinnedAddress octet).value < s.cidr.last)
    (hgateway : s.pinnedAddress octet ≠ s.gateway)
    (hpin : s.pin name comment octet = .ok (r, t)) :
    (s.find? name = some r ∧ t = s) ∨
      (s.Grants r ∧ r.name = name ∧ r.comment = comment ∧ t = s.push r) := by
  unfold pin at hpin
  split at hpin
  · next found hfound =>
    cases hpin
    exact .inl ⟨hfound, rfl⟩
  · next hnone =>
    unfold reserveFree at hpin
    split at hpin
    · cases hpin
    · next hfree =>
      cases hpin
      refine .inr ⟨⟨find?_eq_none.mp hnone, hinside, hgateway, ?_⟩, rfl, rfl, rfl⟩
      simpa [owner?, reservedAddresses] using hfree

/-- Reserving an address is a step of reserving. -/
theorem reservedFrom_reserve {s t : Subnet} {name comment : String} {r : Reservation}
    (hreserve : s.reserve name comment = .ok (r, t)) : s.ReservedFrom t := by
  rcases reserve_cases hreserve with ⟨_, rfl⟩ | ⟨hr, _, _, rfl⟩
  · exact .start
  · exact ReservedFrom.start.push hr

end SitePlan.Subnet
