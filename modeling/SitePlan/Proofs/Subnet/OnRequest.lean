import SitePlan.Proofs.Subnet.Reservations

/-!
# Addresses on request

The addresses that are set aside for requests lie above everything that is handed out in a
subnet, so a request never gets the gateway's address or a reserved one.
-/

namespace SitePlan.Subnet

/-- The addresses set aside by a subnet, if any, are its own to give out. -/
structure WellRanged (s : Subnet) : Prop where
  /-- There are both ends or none. -/
  bothEnds : s.dhcpStart.isSome = s.dhcpEnd.isSome
  /-- The ends are in order. -/
  ordered : ∀ start ∈ s.dhcpStart, ∀ stop ∈ s.dhcpEnd, start.value ≤ stop.value
  /-- The range lies strictly inside the subnet. -/
  inside : ∀ start ∈ s.dhcpStart, ∀ stop ∈ s.dhcpEnd,
    s.cidr.first < start.value ∧ stop.value < s.cidr.last
  /-- The gateway's address and the reserved ones are not in the range. -/
  free : ∀ start ∈ s.dhcpStart, ∀ stop ∈ s.dhcpEnd, ∀ a ∈ s.gateway :: s.reservedAddresses,
    a.value < start.value ∨ stop.value < a.value

/-- A subnet that sets nothing aside has no wrong range. -/
theorem wellRanged_of_eq_none {s : Subnet} (hstart : s.dhcpStart = none)
    (hstop : s.dhcpEnd = none) : s.WellRanged := by
  constructor <;> simp [hstart, hstop]

private theorem le_foldl_max (rs : List Reservation) (highest : Nat) :
    highest ≤ rs.foldl (fun m r => max m r.address.value) highest ∧
      ∀ r ∈ rs, r.address.value ≤ rs.foldl (fun m r => max m r.address.value) highest := by
  induction rs generalizing highest with
  | nil => simp
  | cons r rest ih =>
    obtain ⟨hstart, hrest⟩ := ih (max highest r.address.value)
    simp only [List.foldl_cons]
    refine ⟨by omega, fun r' hr' => ?_⟩
    rcases List.mem_cons.mp hr' with rfl | hr'
    · omega
    · exact hrest r' hr'

/-- The highest address in use is not below the gateway. -/
theorem gateway_le_highestTaken (s : Subnet) : s.gateway.value ≤ s.highestTaken :=
  (le_foldl_max _ _).1

/-- The highest address in use is not below a reserved one in the block. -/
theorem le_highestTaken {s : Subnet} {a : Ipv4} (hreserved : a ∈ s.reservedAddresses)
    (hinside : s.cidr.contains a = true) : a.value ≤ s.highestTaken := by
  obtain ⟨r, hr, rfl⟩ := List.mem_map.mp hreserved
  exact (le_foldl_max _ _).2 r (List.mem_filter.mpr ⟨hr, hinside⟩)

/-- Setting addresses aside changes only the two ends of the range. -/
theorem updateDhcpRange_eq {s t : Subnet} (hupdate : s.updateDhcpRange = .ok t) :
    t = { s with dhcpStart := t.dhcpStart, dhcpEnd := t.dhcpEnd } := by
  unfold updateDhcpRange at hupdate
  dsimp only at hupdate
  split at hupdate
  · cases hupdate
    rfl
  · cases hupdate

/-- The gateway of a new subnet is not below it. -/
theorem first_le_gateway_create (name : String) (cidr : Cidr) (vlan : UInt16) :
    (create name cidr vlan).cidr.first ≤ (create name cidr vlan).gateway.value := by
  have hfirst := cidr.first_le
  have hnumber := cidr.address.value_lt
  simp only [create, Ipv4.clamp]
  omega

/-- Addresses that are set aside lie above those in use, as long as the gateway is not
below the subnet. -/
theorem wellRanged_updateDhcpRange {s t : Subnet}
    (hgateway : s.cidr.first ≤ s.gateway.value) (hupdate : s.updateDhcpRange = .ok t) :
    t.WellRanged := by
  unfold updateDhcpRange at hupdate
  dsimp only at hupdate
  split at hupdate
  case isFalse => cases hupdate
  case isTrue horder =>
    cases hupdate
    have hlow := s.gateway_le_highestTaken
    have hlast := s.cidr.last_lt
    have hstop : (Ipv4.clamp (s.cidr.last - 1)).value = s.cidr.last - 1 :=
      Ipv4.value_clamp (by omega)
    -- The range is not empty, so its start is an address and not clamped to one.
    have hstart : (Ipv4.clamp (s.highestTaken + 1)).value = s.highestTaken + 1 := by
      simp only [Ipv4.clamp] at horder ⊢
      omega
    rw [hstart, hstop] at horder
    constructor
    · rfl
    · rintro _ ⟨⟩ _ ⟨⟩
      omega
    · rintro _ ⟨⟩ _ ⟨⟩
      dsimp only
      omega
    · rintro _ ⟨⟩ _ ⟨⟩ a ha
      rw [hstart, hstop]
      rcases List.mem_cons.mp ha with rfl | hreserved
      · exact .inl (by dsimp only; omega)
      · by_cases hinside : s.cidr.contains a = true
        · have hle : a.value ≤ s.highestTaken := le_highestTaken hreserved hinside
          omega
        · -- An address outside the block is outside the range in it.
          rw [Cidr.contains_iff] at hinside
          omega

end SitePlan.Subnet
