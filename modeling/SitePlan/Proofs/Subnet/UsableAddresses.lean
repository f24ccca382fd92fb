import SitePlan.Proofs.Subnet.ReservingRuns

/-!
# Usable addresses

The ends of a block and the address of the gateway are no addresses for a device. The next
free address is always a usable one, but an address that is chosen only has to lie in the block.
So the unusable addresses that are reserved are those that calls choose.
-/

namespace SitePlan.Subnet

/-- An address that a device can have. -/
structure IsUsable (s : Subnet) (a : Ipv4) : Prop where
  /-- The address lies in the block. -/
  inside : s.cidr.contains a = true
  /-- The address is not the block's first one. -/
  notNetwork : a ≠ s.cidr.network
  /-- The address is not the block's last one. -/
  notBroadcast : a ≠ s.cidr.broadcast
  /-- The address is not the gateway's. -/
  notGateway : a ≠ s.gateway

/-- Only usable addresses are granted. -/
theorem Grants.isUsable {s : Subnet} {r : Reservation} (hr : s.Grants r) :
    s.IsUsable r.address := by
  obtain ⟨hfirst, hlast⟩ := hr.inside
  constructor
  · exact Cidr.contains_iff.mpr ⟨by omega, by omega⟩
  · intro hnetwork
    have hvalue : r.address.value = s.cidr.first := congrArg Ipv4.value hnetwork
    omega
  · intro hbroadcast
    have hvalue : r.address.value = s.cidr.last := congrArg Ipv4.value hbroadcast
    omega
  · exact hr.notGateway

/-- Reservations do not matter for which addresses are usable. -/
theorem isUsable_congr {s t : Subnet} (hst : t = { s with reservations := t.reservations })
    (a : Ipv4) : t.IsUsable a ↔ s.IsUsable a := by
  rw [hst]
  constructor <;> rintro ⟨hinside, hnetwork, hbroadcast, hgateway⟩
  · exact ⟨hinside, hnetwork, hbroadcast, hgateway⟩
  · exact ⟨hinside, hnetwork, hbroadcast, hgateway⟩

/-- Granting reservations takes usable addresses only. -/
theorem ReservedFrom.isUsable {s t : Subnet} (hst : s.ReservedFrom t) {a : Ipv4}
    (ha : a ∈ t.reservedAddresses) : a ∈ s.reservedAddresses ∨ s.IsUsable a := by
  induction hst with
  | start => exact .inl ha
  | @push t r hst hr ih =>
    rw [reservedAddresses_push, List.mem_append, List.mem_singleton] at ha
    rcases ha with hold | rfl
    · exact ih hold
    · exact .inr ((isUsable_congr hst.eq_reservations _).mp hr.isUsable)
  | @rename t name aliases _ ih =>
    have haddresses := map_modifyReservation t name
      (fun r => { r with aliases := aliases r.aliases }) Reservation.address fun _ => rfl
    rw [reservedAddresses, haddresses] at ha
    exact ih ha

namespace ReserveCall

/-- A chosen address of the block is reserved in the end, whatever the outcome of the call. -/
theorem mem_reservedAddresses_chosen {s : Subnet} {a : Ipv4} (hinside : s.cidr.contains a = true)
    (key comment : String) : a ∈ ((chosen key a comment).run s).2.reservedAddresses := by
  rw [run, Subnet.reserveAt, if_pos hinside, single_reserveFree]
  split_ifs with htaken
  · exact htaken
  · simp [reservedAddresses_push]

/-- A call that pins nothing reserves an unusable address exactly if it chooses it in the
block. -/
theorem mem_reservedAddresses_run_iff {s : Subnet} {a : Ipv4} (ha : ¬s.IsUsable a)
    {call : ReserveCall} (hpin : ∀ key comment octet, call ≠ pinned key comment octet) :
    a ∈ (call.run s).2.reservedAddresses ↔
      a ∈ s.reservedAddresses ∨
        s.cidr.contains a = true ∧ ∃ key comment, call = chosen key a comment := by
  constructor
  · intro hmem
    rcases run_cases s call with ⟨_, hfrom⟩ | ⟨r, hpush, _, _, hpinned | ⟨hchosen, hinside⟩⟩
    · exact .inl ((hfrom.isUsable hmem).resolve_right ha)
    · obtain ⟨octet, hcall⟩ := hpinned
      exact absurd hcall (hpin _ _ _)
    · rw [hpush, reservedAddresses_push, List.mem_append, List.mem_singleton] at hmem
      rcases hmem with hold | rfl
      · exact .inl hold
      · exact .inr ⟨hinside, _, _, hchosen⟩
  · rintro (hold | ⟨hinside, key, comment, rfl⟩)
    · exact (prefix_reservedAddresses (prefix_ledger_run s call)).subset hold
    · exact mem_reservedAddresses_chosen hinside key comment

/-- Calls that pin nothing reserve an unusable address exactly if one of them chooses it in the
block. -/
theorem mem_reservedAddresses_runAll_iff {s : Subnet} {a : Ipv4} (ha : ¬s.IsUsable a)
    {calls : List ReserveCall} (hpins : ∀ key comment octet, pinned key comment octet ∉ calls) :
    a ∈ (runAll s calls).reservedAddresses ↔
      a ∈ s.reservedAddresses ∨
        s.cidr.contains a = true ∧ ∃ key comment, chosen key a comment ∈ calls := by
  induction calls generalizing s with
  | nil => simp [runAll]
  | cons call rest ih =>
    have hframe := run_eq_reservations s call
    have hcidr : (call.run s).2.cidr = s.cidr := by rw [hframe]
    have hpin : ∀ key comment octet, call ≠ pinned key comment octet :=
      fun key comment octet hcall => hpins key comment octet (hcall ▸ List.mem_cons_self)
    have hstep := mem_reservedAddresses_run_iff ha hpin
    have hrest := ih (mt (isUsable_congr hframe a).mp ha)
      fun key comment octet hmem => hpins key comment octet (List.mem_cons_of_mem _ hmem)
    have hrun : runAll s (call :: rest) = runAll (call.run s).2 rest := rfl
    rw [hrun, hrest, hstep, hcidr, or_assoc, ← and_or_left, ← exists_or]
    simp only [← exists_or, List.mem_cons, eq_comm]

/-- Whatever is reserved in a new subnet in whatever order, whether or not the calls succeed:
if nothing is pinned, every reserved address lies in the block. And every one is usable, so
neither the first nor the last address of the block nor the gateway's, exactly if no call
chooses an address of the block that is not. -/
theorem isUsable_runAll_create_iff (name : String) (cidr : Cidr) (vlan : UInt16)
    {calls : List ReserveCall} (hpins : ∀ key comment octet, pinned key comment octet ∉ calls) :
    let new := create name cidr vlan
    let made := runAll new calls
    (∀ a ∈ made.reservedAddresses, cidr.contains a = true) ∧
    ((∀ a ∈ made.reservedAddresses, new.IsUsable a) ↔
      ∀ key a comment, chosen key a comment ∈ calls → cidr.contains a = true →
        new.IsUsable a) := by
  intro new made
  have hmade : ∀ a, ¬new.IsUsable a → (a ∈ made.reservedAddresses ↔
      cidr.contains a = true ∧ ∃ key comment, chosen key a comment ∈ calls) := by
    intro a ha
    have hnone : a ∉ new.reservedAddresses := List.not_mem_nil
    have hiff := mem_reservedAddresses_runAll_iff ha hpins
    rwa [or_iff_right hnone] at hiff
  refine ⟨fun a hmem => ?_, ?_, ?_⟩
  · by_cases ha : new.IsUsable a
    · exact ha.inside
    · exact ((hmade a ha).mp hmem).1
  · intro hall key a comment hcall hinside
    by_contra ha
    exact ha (hall a ((hmade a ha).mpr ⟨hinside, key, comment, hcall⟩))
  · intro hchosen a hmem
    by_contra ha
    obtain ⟨hinside, key, comment, hcall⟩ := (hmade a ha).mp hmem
    exact ha (hchosen key a comment hcall hinside)

/-- Calls of both kinds, one of which fails, reserve usable addresses only. -/
theorem isUsable_runAll_create_iff_mixedCalls :
    let calls := [next "ncn-m001" "", chosen "pit" (.ofOctets 10 252 1 10) "",
      chosen "outside" (.ofOctets 10 252 2 10) "", next "ncn-m002" ""]
    let new := create "bootstrap_dhcp" (.ofOctets 10 252 1 0 24) 2
    (∀ key comment octet, pinned key comment octet ∉ calls) ∧
      ∀ a ∈ (runAll new calls).reservedAddresses, new.IsUsable a := by
  intro calls new
  have hpins : ∀ key comment octet, pinned key comment octet ∉ calls := by simp [calls]
  obtain ⟨-, hiff⟩ := isUsable_runAll_create_iff "bootstrap_dhcp" (.ofOctets 10 252 1 0 24) 2 hpins
  refine ⟨hpins, hiff.mpr fun key a comment hcall hinside => ?_⟩
  simp only [calls, List.mem_cons, List.not_mem_nil, reduceCtorEq, chosen.injEq, false_or,
    or_false] at hcall
  rcases hcall with ⟨-, rfl, -⟩ | ⟨-, rfl, -⟩
  · constructor <;> decide +kernel
  · exact absurd hinside (by decide +kernel)

/-- An unusable address can be reserved without a pin: the first address of a block is chosen
for a name. -/
theorem not_forall_isUsable :
    ¬ ∀ (name : String) (cidr : Cidr) (vlan : UInt16) (calls : List ReserveCall),
      cidr.IsAligned → (∀ key comment octet, pinned key comment octet ∉ calls) →
        ∀ a ∈ (runAll (create name cidr vlan) calls).reservedAddresses,
          (create name cidr vlan).IsUsable a := by
  intro hall
  have haligned : (Cidr.ofOctets 10 252 1 0 24).IsAligned :=
    Cidr.isAligned_iff_first_eq.mpr (by decide +kernel)
  have hfirst := hall "bootstrap_dhcp" (.ofOctets 10 252 1 0 24) 2
    [chosen "pit" (.ofOctets 10 252 1 0) ""] haligned (by simp)
    (.ofOctets 10 252 1 0) (by decide +kernel)
  exact hfirst.notNetwork (by decide +kernel)

end ReserveCall

end SitePlan.Subnet
