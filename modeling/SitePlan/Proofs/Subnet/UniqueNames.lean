import SitePlan.Proofs.SortedMap
import SitePlan.Proofs.Subnet.ReservingRuns

/-!
# One reservation for every name

A name that has a reservation keeps it, except where an address is chosen for it: then the
name gets another reservation, and what is found under it depends on where one looks. So names
have one reservation each exactly as long as no call chooses an address for a name that has
one already.
-/

namespace SitePlan.Subnet

/-- Where names are different, a reservation is found under its name. -/
theorem find?_name_eq_some_iff {rs : List Reservation} (hnames : (rs.map Reservation.name).Nodup)
    {key : String} {r : Reservation} :
    rs.find? (fun r => r.name = key) = some r ↔ r ∈ rs ∧ r.name = key := by
  constructor
  · intro hfound
    exact ⟨List.mem_of_find?_eq_some hfound, by simpa using List.find?_some hfound⟩
  · rintro ⟨hr, rfl⟩
    cases hfound : rs.find? (fun other => other.name = r.name) with
    | none =>
      have hother := List.find?_eq_none.mp hfound r hr
      simp at hother
    | some other =>
      have hname : other.name = r.name := by simpa using List.find?_some hfound
      rw [List.inj_on_of_nodup_map hnames (List.mem_of_find?_eq_some hfound) hr hname]

/-- If the first of different reservations of a name is always the last one, then no two of
them have one name. -/
theorem nodup_names_of_find?_reverse {rs : List Reservation} (hrs : rs.Nodup)
    (hagree : ∀ key : String, rs.find? (fun r => r.name = key) =
      rs.reverse.find? (fun r => r.name = key)) : (rs.map Reservation.name).Nodup := by
  induction rs with
  | nil => exact .nil
  | cons r rest ih =>
    obtain ⟨hr, hrest⟩ := List.nodup_cons.mp hrs
    simp only [List.reverse_cons, List.find?_append] at hagree
    have hnone : rest.reverse.find? (fun other => other.name = r.name) = none := by
      cases hlast : rest.reverse.find? (fun other => other.name = r.name) with
      | none => rfl
      | some last =>
        have hsame := hagree r.name
        rw [hlast] at hsame
        obtain rfl : r = last := by simpa using hsame
        exact absurd (List.mem_reverse.mp (List.mem_of_find?_eq_some hlast)) hr
    have hnew : ∀ other ∈ rest, other.name ≠ r.name := by
      simpa using hnone
    refine List.nodup_cons.mpr ⟨?_, ih hrest fun key => ?_⟩
    · rw [List.mem_map]
      rintro ⟨other, hother, hname⟩
      exact hnew other hother hname
    · by_cases hkey : r.name = key
      · subst hkey
        rw [hnone, List.find?_eq_none]
        simpa using hnew
      · have hsame := hagree key
        rwa [List.find?_cons_of_neg (by simpa using hkey), List.find?_singleton,
          if_neg (by simpa using hkey), Option.or_none] at hsame

/-- The list by name has the last reservation of a name. -/
theorem get?_byName (s : Subnet) (key : String) :
    s.byName.get? key = s.reservations.reverse.find? fun r => r.name = key := by
  rw [byName, SortedMap.get?_ofList, ← List.map_reverse]
  induction s.reservations.reverse with
  | nil => rfl
  | cons r rest ih =>
    rw [List.map_cons, List.lookup_cons, List.find?_cons, ih]
    by_cases hkey : r.name = key
    · simp [hkey]
    · rw [beq_eq_false_iff_ne.mpr (Ne.symm hkey), decide_eq_false hkey]

/-- Looking a name up gives the reservation that is found. -/
theorem toOption_lookup (s : Subnet) (key : String) : (s.lookup key).toOption = s.find? key := by
  unfold lookup
  cases s.find? key <;> rfl

/-- What a look-up gives for a name is always what is listed by name exactly if no two
reservations have one name, provided that their addresses are different. -/
theorem lookup_eq_byName_iff {s : Subnet} (hs : s.reservedAddresses.Nodup) :
    (∀ key, (s.lookup key).toOption = s.byName.get? key) ↔ s.reservedNames.Nodup := by
  simp only [toOption_lookup, find?, get?_byName]
  refine ⟨nodup_names_of_find?_reverse (hs.of_map _), fun hnames key => Option.ext fun r => ?_⟩
  have hreverse : (s.reservations.reverse.map Reservation.name).Nodup := by
    rw [List.map_reverse, List.nodup_reverse]
    exact hnames
  rw [find?_name_eq_some_iff hnames, find?_name_eq_some_iff hreverse, List.mem_reverse]

namespace ReserveCall

/-- Names have one reservation each after a call exactly if they had before and the call
repeats none. -/
theorem nodup_reservedNames_run_iff (s : Subnet) (call : ReserveCall) :
    (call.run s).2.reservedNames.Nodup ↔ s.reservedNames.Nodup ∧ ¬call.Repeats s := by
  have hbefore : (call.run s).2.reservedNames.Nodup → s.reservedNames.Nodup :=
    (prefix_reservedNames (prefix_ledger_run s call)).sublist.nodup
  rcases run_cases s call with ⟨hfresh, hfrom⟩ | ⟨r, hpush, _, hrepeats, _⟩
  · exact ⟨fun hnodup => ⟨hbefore hnodup, hfresh⟩, fun hs => hfrom.keeps.2.2 hs.1⟩
  · rw [hpush, reservedNames_push, List.nodup_append_comm, ← hrepeats]
    exact List.nodup_cons.trans and_comm

/-- Names have one reservation each after calls exactly if they had before and no call
repeats one of the names that the calls before it left behind. -/
theorem nodup_reservedNames_runAll_iff (s : Subnet) (calls : List ReserveCall) :
    (runAll s calls).reservedNames.Nodup ↔ s.reservedNames.Nodup ∧
      ∀ before call after, calls = before ++ call :: after →
        ¬call.Repeats (runAll s before) := by
  induction calls generalizing s with
  | nil => simp [runAll]
  | cons first rest ih =>
    have hrun : runAll s (first :: rest) = runAll (first.run s).2 rest := rfl
    rw [hrun, ih, nodup_reservedNames_run_iff, and_assoc]
    refine and_congr_right fun _ => ⟨?_, ?_⟩
    · rintro ⟨hfirst, hrest⟩ before call after hcalls
      cases before with
      | nil =>
        obtain ⟨rfl, rfl⟩ := List.cons.inj hcalls
        exact hfirst
      | cons earlier before =>
        rw [List.cons_append, List.cons.injEq] at hcalls
        obtain ⟨rfl, hcalls⟩ := hcalls
        exact hrest before call after hcalls
    · intro hall
      exact ⟨hall [] first rest rfl, fun before call after hcalls =>
        hall (first :: before) call after (by rw [hcalls, List.cons_append])⟩

/-- One reservation for every name: whatever is reserved in a new subnet in whatever order,
whether or not the calls succeed, no two reservations have one name exactly if no call chooses
a free address for a name that has a reservation already. And exactly then looking a name up
always gives the reservation that is listed by name. -/
theorem nodup_reservedNames_runAll_create_iff (name : String) (cidr : Cidr) (vlan : UInt16)
    (calls : List ReserveCall) :
    let made := runAll (create name cidr vlan) calls
    (made.reservedNames.Nodup ↔ ∀ before call after, calls = before ++ call :: after →
      ¬call.Repeats (runAll (create name cidr vlan) before)) ∧
    ((∀ key, (made.lookup key).toOption = made.byName.get? key) ↔ made.reservedNames.Nodup) := by
  intro made
  have haddresses : made.reservedAddresses.Nodup :=
    nodup_reservedAddresses_runAll (by simp [reservedAddresses, create]) calls
  refine ⟨?_, lookup_eq_byName_iff haddresses⟩
  rw [nodup_reservedNames_runAll_iff, and_iff_right]
  simp [reservedNames, create]

/-- A name can have two reservations: an address is chosen for it after it got the next free
one. -/
theorem not_forall_nodup_reservedNames :
    ¬ ∀ (name : String) (cidr : Cidr) (vlan : UInt16) (calls : List ReserveCall),
      (runAll (create name cidr vlan) calls).reservedNames.Nodup ∧
        ∀ key, ((runAll (create name cidr vlan) calls).lookup key).toOption =
          (runAll (create name cidr vlan) calls).byName.get? key := by
  intro hall
  have htwice := (hall "bootstrap_dhcp" (.ofOctets 10 252 1 0 24) 2
    [next "pit" "", chosen "pit" (.ofOctets 10 252 1 10) ""]).1
  revert htwice
  decide +kernel

end ReserveCall

end SitePlan.Subnet
