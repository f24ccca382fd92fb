import SitePlan.Proofs.Subnet.Requests

/-!
# Subnets after any reserving

Addresses are reserved one by one as they come, at places that are chosen, and for groups of
devices up to a fault. Whatever the calls are and whether or not they succeed, reservations
are only ever added after the others, and each gets an address that no other one has. The
next address is always the lowest one that is left.
-/

namespace SitePlan.Subnet

/-! ### The next address -/

/-- An address that can be handed out: it lies strictly between the address that the block is
written with and the block's last address, and is neither the gateway's nor reserved. -/
structure IsFree (s : Subnet) (a : Ipv4) : Prop where
  /-- The address follows the one that the block is written with. -/
  above : s.cidr.address.value < a.value
  /-- The address is before the block's last one. -/
  below : a.value < s.cidr.last
  /-- The address is not the gateway's. -/
  notGateway : a ≠ s.gateway
  /-- The address is not reserved. -/
  unreserved : a ∉ s.reservedAddresses

/-- The lowest address that can be handed out. -/
def IsLowestFree (s : Subnet) (a : Ipv4) : Prop :=
  s.IsFree a ∧ ∀ b, s.IsFree b → a.value ≤ b.value

/-- The search for a free number passes over none. -/
theorem exists_lowestFree {taken : Nat → Bool} {first last n : Nat} (hlow : first ≤ n)
    (hhigh : n ≤ last) (hfree : taken n = false) :
    ∃ m, lowestFree taken first last = some m ∧ m ≤ n := by
  fun_induction lowestFree taken first last with
  | case1 first _ htaken ih =>
    have hne : first ≠ n := by
      rintro rfl
      rw [hfree] at htaken
      cases htaken
    exact ih (by omega)
  | case2 first _ _ => exact ⟨first, rfl, hlow⟩
  | case3 first hempty => omega

/-- An address can be handed out when its number is in the range that is searched and is
not taken. -/
theorem isFree_iff {s : Subnet} {a : Ipv4} :
    s.IsFree a ↔ (s.cidr.address.value + 1 ≤ a.value ∧ a.value ≤ s.cidr.last - 1) ∧
      s.isTaken a.value = false := by
  rw [isTaken_eq_false]
  have hnamed := s.cidr.le_last
  constructor
  · rintro ⟨habove, hbelow, hgateway, hunreserved⟩
    exact ⟨⟨habove, by omega⟩, hgateway, hunreserved⟩
  · rintro ⟨⟨habove, hbelow⟩, hgateway, hunreserved⟩
    exact ⟨habove, by omega, hgateway, hunreserved⟩

/-- The next free address is the lowest one that can be handed out. -/
theorem isLowestFree_of_nextFree? {s : Subnet} {a : Ipv4} (hnext : s.nextFree? = some a) :
    s.IsLowestFree a := by
  obtain ⟨n, hn, rfl⟩ := Option.map_eq_some_iff.mp hnext
  obtain ⟨hlow, hhigh, hfree⟩ := of_lowestFree hn
  have hlast := s.cidr.last_lt
  have hvalue : (Ipv4.clamp n).value = n := Ipv4.value_clamp (by omega)
  refine ⟨isFree_iff.mpr (by rw [hvalue]; exact ⟨⟨hlow, hhigh⟩, hfree⟩), fun b hb => ?_⟩
  obtain ⟨⟨hblow, hbhigh⟩, hbfree⟩ := isFree_iff.mp hb
  obtain ⟨m, hm, hle⟩ := exists_lowestFree hblow hbhigh hbfree
  obtain rfl : n = m := Option.some.inj (hn.symm.trans hm)
  rwa [hvalue]

/-- There is no next free address exactly if none can be handed out. -/
theorem nextFree?_eq_none {s : Subnet} : s.nextFree? = none ↔ ¬∃ a, s.IsFree a := by
  constructor
  · rintro hnone ⟨a, ha⟩
    obtain ⟨⟨hlow, hhigh⟩, hfree⟩ := isFree_iff.mp ha
    obtain ⟨m, hm, _⟩ := exists_lowestFree hlow hhigh hfree
    rw [nextFree?, hm] at hnone
    cases hnone
  · intro hfull
    cases hnext : s.nextFree? with
    | none => rfl
    | some a => exact absurd ⟨a, (isLowestFree_of_nextFree? hnext).1⟩ hfull

/-- A name without a reservation gets the lowest address that can be handed out. -/
theorem reserve_of_isFree {s : Subnet} {name : String} (hnew : name ∉ s.reservedNames)
    (hfree : ∃ a, s.IsFree a) (comment : String) :
    ∃ a, s.IsLowestFree a ∧ s.reserve name comment =
      .ok (⟨name, a, comment, []⟩, s.push ⟨name, a, comment, []⟩) := by
  cases hnext : s.nextFree? with
  | none => exact absurd hfree (nextFree?_eq_none.mp hnext)
  | some a =>
    refine ⟨a, isLowestFree_of_nextFree? hnext, ?_⟩
    simp [reserve, find?_eq_none.mpr hnew, hnext]

/-- A name without a reservation gets none exactly if no address can be handed out. -/
theorem reserve_eq_exhausted_iff {s : Subnet} {name : String}
    (hnew : name ∉ s.reservedNames) (comment : String) :
    s.reserve name comment = .error (.exhausted s.name s.cidr name) ↔ ¬∃ a, s.IsFree a := by
  rw [← nextFree?_eq_none]
  cases hnext : s.nextFree? <;> simp [reserve, find?_eq_none.mpr hnew, hnext]

/-- A name with a reservation keeps it. -/
theorem reserve_of_mem {s : Subnet} {name : String} (hmem : name ∈ s.reservedNames)
    (comment : String) :
    ∃ r ∈ s.reservations, r.name = name ∧ s.reserve name comment = .ok (r, s) := by
  cases hfound : s.find? name with
  | none => exact absurd hmem (find?_eq_none.mp hfound)
  | some r =>
    refine ⟨r, List.mem_of_find?_eq_some hfound, ?_, by simp [reserve, hfound]⟩
    simpa using List.find?_some hfound

/-! ### Calls -/

/-- A call that reserves addresses of a subnet. -/
inductive ReserveCall
  /-- The next free address. -/
  | next (name comment : String)
  /-- The address with a last octet. -/
  | pinned (name comment : String) (octet : UInt8)
  /-- A chosen address. -/
  | chosen (name : String) (address : Ipv4) (comment : String)
  /-- Addresses for switches and for switches to come. -/
  | switches (xnames : SwitchXnames) (spares : Nat)
  /-- Addresses for management nodes. -/
  | nodes (network : String) (ns : List ManagementNode)

namespace ReserveCall

/-- The outcome of a call and the subnet that it leaves behind. A single reservation is added
in the last step, so a fault before it leaves the subnet as it was. -/
def run (s : Subnet) : ReserveCall → Except AddressError Unit × Subnet
  | next name comment => single s (s.reserve name comment)
  | pinned name comment octet => single s (s.pin name comment octet)
  | chosen name address comment => single s (s.reserveAt name address comment)
  | switches xnames spares => s.reserveSwitches xnames spares
  | nodes network ns => s.reserveNodes network ns
where
  /-- The subnet after an address was to be reserved. -/
  single (s : Subnet) : Except AddressError (Reservation × Subnet) →
      Except AddressError Unit × Subnet
    | .ok (_, t) => (.ok (), t)
    | .error fault => (.error fault, s)

/-- The subnet after calls one after another, each on the subnet that the calls before it
left behind. -/
def runAll (s : Subnet) (calls : List ReserveCall) : Subnet :=
  calls.foldl (fun s call => (call.run s).2) s

/-- The call gives a name that has a reservation another one: an address of the block is
chosen for it, and this address is not reserved. -/
def Repeats (s : Subnet) : ReserveCall → Prop
  | chosen name address _ =>
    name ∈ s.reservedNames ∧ s.cidr.contains address = true ∧ address ∉ s.reservedAddresses
  | _ => False

end ReserveCall

/-- An address has no owner when it is not reserved. -/
theorem owner?_eq_none {s : Subnet} {address : Ipv4} :
    s.owner? address = none ↔ address ∉ s.reservedAddresses := by
  simp [owner?, reservedAddresses]

/-- A chosen address is reserved for the name unless a reservation has it. -/
theorem ReserveCall.single_reserveFree (s : Subnet) (name : String) (address : Ipv4)
    (comment : String) :
    (run.single s (s.reserveFree name address comment)).2 =
      if address ∈ s.reservedAddresses then s else s.push ⟨name, address, comment, []⟩ := by
  unfold reserveFree
  split_ifs with htaken
  · cases howner : s.owner? address with
    | some owner => rfl
    | none => exact absurd htaken (owner?_eq_none.mp howner)
  · rw [owner?_eq_none.mpr htaken]
    rfl

/-- A call grants reservations under new names, or it adds one reservation at an address that
is not reserved, under a new name unless the call repeats it. Then the call pins the address or
chooses it in the block. -/
theorem ReserveCall.run_cases (s : Subnet) (call : ReserveCall) :
    (¬call.Repeats s ∧ s.ReservedFrom (call.run s).2) ∨
      ∃ r : Reservation, (call.run s).2 = s.push r ∧ r.address ∉ s.reservedAddresses ∧
        (r.name ∈ s.reservedNames ↔ call.Repeats s) ∧
        ((∃ octet, call = .pinned r.name r.comment octet) ∨
          call = .chosen r.name r.address r.comment ∧ s.cidr.contains r.address = true) := by
  cases call with
  | next name comment =>
    refine .inl ⟨id, ?_⟩
    simp only [run]
    cases hreserve : s.reserve name comment with
    | error fault => exact .start
    | ok result => exact reservedFrom_reserve hreserve
  | pinned name comment octet =>
    simp only [run, Subnet.pin]
    cases hfound : s.find? name with
    | some r => exact .inl ⟨id, .start⟩
    | none =>
      dsimp only
      rw [single_reserveFree]
      split_ifs with htaken
      · exact .inl ⟨id, .start⟩
      · exact .inr ⟨_, rfl, htaken, iff_of_false (find?_eq_none.mp hfound) id,
          .inl ⟨octet, rfl⟩⟩
  | chosen name address comment =>
    simp only [run, Subnet.reserveAt]
    by_cases hinside : s.cidr.contains address = true
    · rw [if_pos hinside, single_reserveFree]
      split_ifs with htaken
      · exact .inl ⟨fun hrepeats => hrepeats.2.2 htaken, .start⟩
      · exact .inr ⟨_, rfl, htaken, by simp [Repeats, hinside, htaken], .inr ⟨rfl, hinside⟩⟩
    · rw [if_neg hinside]
      exact .inl ⟨fun hrepeats => hinside hrepeats.2.1, .start⟩
  | switches xnames spares => exact .inl ⟨id, reservedFrom_reserveSwitches s xnames spares⟩
  | nodes network ns => exact .inl ⟨id, reservedFrom_reserveNodes s network ns⟩

/-! ### What calls keep -/

/-- What reservations are made with: name, address and comment, in the order in which they
were made. -/
def ledger (s : Subnet) : List (String × Ipv4 × String) :=
  s.reservations.map fun r => (r.name, r.address, r.comment)

/-- A reservation adds its address after the others. -/
theorem reservedAddresses_push (s : Subnet) (r : Reservation) :
    (s.push r).reservedAddresses = s.reservedAddresses ++ [r.address] := by
  simp [reservedAddresses, Subnet.push]

/-- A reservation adds its name after the others. -/
theorem reservedNames_push (s : Subnet) (r : Reservation) :
    (s.push r).reservedNames = s.reservedNames ++ [r.name] := by
  simp [reservedNames, Subnet.push]

/-- Where entries stay at their places, so do their addresses. -/
theorem prefix_reservedAddresses {s t : Subnet} (hst : s.ledger <+: t.ledger) :
    s.reservedAddresses <+: t.reservedAddresses := by
  simpa [ledger, reservedAddresses, Function.comp_def] using hst.map fun entry => entry.2.1

/-- Where entries stay at their places, so do their names. -/
theorem prefix_reservedNames {s t : Subnet} (hst : s.ledger <+: t.ledger) :
    s.reservedNames <+: t.reservedNames := by
  simpa [ledger, reservedNames, Function.comp_def] using hst.map Prod.fst

/-- A reservation is entered after the others. -/
theorem prefix_ledger_push (s : Subnet) (r : Reservation) : s.ledger <+: (s.push r).ledger := by
  rw [ledger, ledger, Subnet.push, List.map_append]
  exact List.prefix_append _ _

/-- Granting reservations changes no entry, and it takes addresses that are not reserved and
names that are new. -/
theorem ReservedFrom.keeps {s t : Subnet} (hst : s.ReservedFrom t) :
    s.ledger <+: t.ledger ∧ (s.reservedAddresses.Nodup → t.reservedAddresses.Nodup) ∧
      (s.reservedNames.Nodup → t.reservedNames.Nodup) := by
  induction hst with
  | start => exact ⟨List.prefix_refl _, id, id⟩
  | @push t r _ hr ih =>
    obtain ⟨hledger, haddresses, hnames⟩ := ih
    refine ⟨hledger.trans (prefix_ledger_push t r), fun hs => ?_, fun hs => ?_⟩
    · rw [reservedAddresses_push, List.nodup_append_comm]
      exact List.nodup_cons.mpr ⟨hr.free, haddresses hs⟩
    · rw [reservedNames_push, List.nodup_append_comm]
      exact List.nodup_cons.mpr ⟨hr.isNew, hnames hs⟩
  | @rename t name aliases _ ih =>
    let renamed := t.modifyReservation name fun r => { r with aliases := aliases r.aliases }
    have hledger : renamed.ledger = t.ledger := map_modifyReservation t name _ _ fun _ => rfl
    have haddresses : renamed.reservedAddresses = t.reservedAddresses :=
      map_modifyReservation t name _ _ fun _ => rfl
    have hnames : renamed.reservedNames = t.reservedNames :=
      map_modifyReservation t name _ _ fun _ => rfl
    rw [hledger, haddresses, hnames]
    exact ih

namespace ReserveCall

/-- A call changes nothing but the reservations. -/
theorem run_eq_reservations (s : Subnet) (call : ReserveCall) :
    (call.run s).2 = { s with reservations := (call.run s).2.reservations } := by
  rcases run_cases s call with ⟨_, hfrom⟩ | ⟨r, hpush, _⟩
  · exact hfrom.eq_reservations
  · rw [hpush]
    rfl

/-- A call changes no entry. -/
theorem prefix_ledger_run (s : Subnet) (call : ReserveCall) :
    s.ledger <+: (call.run s).2.ledger := by
  rcases run_cases s call with ⟨_, hfrom⟩ | ⟨r, hpush, _⟩
  · exact hfrom.keeps.1
  · rw [hpush]
    exact prefix_ledger_push s r

/-- A call reserves no address twice. -/
theorem nodup_reservedAddresses_run {s : Subnet} (hs : s.reservedAddresses.Nodup)
    (call : ReserveCall) : (call.run s).2.reservedAddresses.Nodup := by
  rcases run_cases s call with ⟨_, hfrom⟩ | ⟨r, hpush, hfree, _⟩
  · exact hfrom.keeps.2.1 hs
  · rw [hpush, reservedAddresses_push, List.nodup_append_comm]
    exact List.nodup_cons.mpr ⟨hfree, hs⟩

/-- Calls change nothing but the reservations. -/
theorem runAll_eq_reservations (s : Subnet) (calls : List ReserveCall) :
    runAll s calls = { s with reservations := (runAll s calls).reservations } := by
  induction calls generalizing s with
  | nil => rfl
  | cons call rest ih =>
    have hrest := ih (call.run s).2
    rw [run_eq_reservations s call] at hrest
    rw [runAll, List.foldl_cons, run_eq_reservations s call]
    exact hrest

/-- Calls change no entry. -/
theorem prefix_ledger_runAll (s : Subnet) (calls : List ReserveCall) :
    s.ledger <+: (runAll s calls).ledger := by
  induction calls generalizing s with
  | nil => exact List.prefix_refl _
  | cons call rest ih => exact (prefix_ledger_run s call).trans (ih _)

/-- Calls reserve no address twice. -/
theorem nodup_reservedAddresses_runAll {s : Subnet} (hs : s.reservedAddresses.Nodup)
    (calls : List ReserveCall) : (runAll s calls).reservedAddresses.Nodup := by
  induction calls generalizing s with
  | nil => exact hs
  | cons call rest ih => exact ih (nodup_reservedAddresses_run hs call)

/-- Addresses are reserved once: whatever is reserved in a new subnet in whatever order,
whether or not the calls succeed, no two reservations have one address. Later calls leave the
reservations at their places, with name, address and comment. Reserving for a name that has
a reservation gives that one. Any other name gets the lowest address strictly between the
address that the block is written with and its last one that is neither the gateway's nor
reserved; exactly if there is none, the call fails and leaves the subnet as it was. -/
theorem runAll_create_reservesOnce (name : String) (cidr : Cidr) (vlan : UInt16)
    (calls : List ReserveCall) :
    let made := runAll (create name cidr vlan) calls
    made = { create name cidr vlan with reservations := made.reservations } ∧
    made.reservedAddresses.Nodup ∧
    (∀ later, made.ledger <+: (runAll made later).ledger) ∧
    (∀ key ∈ made.reservedNames, ∀ comment,
      ∃ r ∈ made.reservations, r.name = key ∧ made.reserve key comment = .ok (r, made)) ∧
    ∀ key ∉ made.reservedNames, ∀ comment,
      ((∃ a, made.IsFree a) → ∃ a, made.IsLowestFree a ∧ made.reserve key comment =
        .ok (⟨key, a, comment, []⟩, made.push ⟨key, a, comment, []⟩)) ∧
      ((next key comment).run made = (.error (.exhausted name cidr key), made) ↔
        ¬∃ a, made.IsFree a) := by
  intro made
  have hmade : made = { create name cidr vlan with reservations := made.reservations } :=
    runAll_eq_reservations _ calls
  refine ⟨hmade, nodup_reservedAddresses_runAll (by simp [reservedAddresses, create]) calls,
    prefix_ledger_runAll made, fun key hmem comment => reserve_of_mem hmem comment,
    fun key hnew comment => ⟨fun hfree => reserve_of_isFree hnew hfree comment, ?_⟩⟩
  have hname : made.name = name := by rw [hmade]; rfl
  have hcidr : made.cidr = cidr := by rw [hmade]; rfl
  have hfull := reserve_eq_exhausted_iff hnew comment
  rw [hname, hcidr] at hfull
  rw [← hfull]
  cases hreserve : made.reserve key comment with
  | error fault => simp [run, run.single, hreserve]
  | ok result => simp [run, run.single, hreserve]

end ReserveCall

end SitePlan.Subnet
