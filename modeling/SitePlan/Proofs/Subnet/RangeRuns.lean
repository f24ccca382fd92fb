import SitePlan.Proofs.Subnet.OnRequest
import SitePlan.Proofs.Subnet.ReservingRuns

/-!
# Addresses on request after any reserving

Setting addresses aside looks at what is reserved at that moment, and reserving does not look
at what is set aside. So a range is as good as the last update that succeeded: it has no address
that was in use then, and it may have one that was reserved later.
-/

namespace SitePlan.Subnet

/-- The address lies in the range that is set aside. -/
def IsSetAside (s : Subnet) (a : Ipv4) : Prop :=
  ∃ start ∈ s.dhcpStart, ∃ stop ∈ s.dhcpEnd, start.value ≤ a.value ∧ a.value ≤ stop.value

/-- No address in use is set aside where the range is in order. -/
theorem WellRanged.not_isSetAside {s : Subnet} (hs : s.WellRanged) {a : Ipv4}
    (ha : a ∈ s.gateway :: s.reservedAddresses) : ¬s.IsSetAside a := by
  rintro ⟨start, hstart, stop, hstop, hlow, hhigh⟩
  have hapart := hs.free start hstart stop hstop a ha
  omega

/-- Only the ends of the range matter for which addresses are set aside. -/
theorem isSetAside_congr {s t : Subnet} (hst : t = { s with reservations := t.reservations })
    (a : Ipv4) : t.IsSetAside a ↔ s.IsSetAside a := by
  rw [hst]
  rfl

/-- A call that reserves addresses of a subnet or sets some aside. -/
inductive RangeCall
  /-- Addresses are reserved. -/
  | reserve (call : ReserveCall)
  /-- The addresses above those in use are set aside. -/
  | update

namespace RangeCall

/-- The outcome of a call and the subnet that it leaves behind. The range is set in the last
step of an update, so a fault before it leaves the subnet as it was. -/
def run (s : Subnet) : RangeCall → Except AddressError Unit × Subnet
  | reserve call => call.run s
  | update =>
    match s.updateDhcpRange with
    | .ok t => (.ok (), t)
    | .error fault => (.error fault, s)

/-- The subnet after calls one after another, each on the subnet that the calls before it
left behind. -/
def runAll (s : Subnet) (calls : List RangeCall) : Subnet :=
  calls.foldl (fun s call => (call.run s).2) s

/-- Every update among the calls fails. -/
def UpdatesFail (s : Subnet) (calls : List RangeCall) : Prop :=
  ∀ before after, calls = before ++ update :: after →
    ∃ fault, (runAll s before).updateDhcpRange = .error fault

/-- A call sets a new range, or it only adds reservations after the others. -/
theorem run_cases (s : Subnet) (call : RangeCall) :
    (call = update ∧ s.updateDhcpRange = .ok (call.run s).2) ∨
      (call = update → ∃ fault, s.updateDhcpRange = .error fault) ∧
        (call.run s).2 = { s with reservations := (call.run s).2.reservations } ∧
        s.ledger <+: (call.run s).2.ledger := by
  cases call with
  | reserve call =>
    exact .inr ⟨nofun, call.run_eq_reservations s, call.prefix_ledger_run s⟩
  | update =>
    rw [run]
    cases hupdate : s.updateDhcpRange with
    | ok t => exact .inl ⟨rfl, rfl⟩
    | error fault => exact .inr ⟨fun _ => ⟨fault, rfl⟩, rfl, List.prefix_refl _⟩

/-- A call leaves the block and the gateway alone. -/
theorem cidr_and_gateway_run (s : Subnet) (call : RangeCall) :
    (call.run s).2.cidr = s.cidr ∧ (call.run s).2.gateway = s.gateway := by
  rcases run_cases s call with ⟨_, hupdate⟩ | ⟨_, hframe, _⟩
  · rw [updateDhcpRange_eq hupdate]
    exact ⟨rfl, rfl⟩
  · rw [hframe]
    exact ⟨rfl, rfl⟩

/-- Calls leave the block and the gateway alone. -/
theorem cidr_and_gateway_runAll (s : Subnet) (calls : List RangeCall) :
    (runAll s calls).cidr = s.cidr ∧ (runAll s calls).gateway = s.gateway := by
  induction calls generalizing s with
  | nil => exact ⟨rfl, rfl⟩
  | cons call rest ih =>
    obtain ⟨hcidr, hgateway⟩ := cidr_and_gateway_run s call
    obtain ⟨hcidrRest, hgatewayRest⟩ := ih (call.run s).2
    exact ⟨hcidrRest.trans hcidr, hgatewayRest.trans hgateway⟩

/-- Every update fails exactly if the first call is no successful one and every later update
fails. -/
theorem updatesFail_cons {s : Subnet} {call : RangeCall} {rest : List RangeCall} :
    UpdatesFail s (call :: rest) ↔
      (call = update → ∃ fault, s.updateDhcpRange = .error fault) ∧
        UpdatesFail (call.run s).2 rest := by
  constructor
  · intro hall
    refine ⟨fun hcall => hall [] rest (by rw [hcall]; rfl), fun before after hrest => ?_⟩
    exact hall (call :: before) after (by rw [hrest]; rfl)
  · rintro ⟨hfirst, hrest⟩ before after hcalls
    cases before with
    | nil => exact hfirst (List.cons.inj hcalls).1
    | cons earlier before =>
      obtain ⟨rfl, hlater⟩ := List.cons.inj hcalls
      exact hrest before after hlater

/-- As long as every update fails, calls only add reservations after the others. -/
theorem runAll_of_updatesFail {s : Subnet} {calls : List RangeCall}
    (hfail : UpdatesFail s calls) :
    runAll s calls = { s with reservations := (runAll s calls).reservations } ∧
      s.ledger <+: (runAll s calls).ledger := by
  induction calls generalizing s with
  | nil => exact ⟨rfl, List.prefix_refl _⟩
  | cons call rest ih =>
    obtain ⟨hfirst, hrest⟩ := updatesFail_cons.mp hfail
    have hrun : runAll s (call :: rest) = runAll (call.run s).2 rest := rfl
    rcases run_cases s call with ⟨hcall, hupdate⟩ | ⟨_, hframe, hprefix⟩
    · obtain ⟨fault, hfault⟩ := hfirst hcall
      rw [hfault] at hupdate
      cases hupdate
    · obtain ⟨hframeRest, hprefixRest⟩ := ih hrest
      rw [hrun]
      refine ⟨?_, hprefix.trans hprefixRest⟩
      rw [hframe] at hframeRest ⊢
      exact hframeRest

/-- Either every update among the calls fails, or there is a last one that succeeds. -/
theorem updatesFail_or_exists (s : Subnet) (calls : List RangeCall) :
    UpdatesFail s calls ∨ ∃ before after t, calls = before ++ update :: after ∧
      (runAll s before).updateDhcpRange = .ok t ∧ UpdatesFail t after := by
  induction calls generalizing s with
  | nil =>
    refine .inl fun before after hcalls => ?_
    simp at hcalls
  | cons call rest ih =>
    rcases ih (call.run s).2 with hfail | ⟨before, after, t, rfl, hupdate, hfail⟩
    · -- the first call is the last successful update if it is one at all
      rcases run_cases s call with ⟨rfl, hupdate⟩ | ⟨hfirst, _, _⟩
      · exact .inr ⟨[], rest, _, rfl, hupdate, hfail⟩
      · exact .inl (updatesFail_cons.mpr ⟨hfirst, hfail⟩)
    · exact .inr ⟨call :: before, after, t, rfl, hupdate, hfail⟩

/-- Calls go on from the subnet that an update leaves behind. -/
theorem runAll_append_update {s t : Subnet} {before : List RangeCall}
    (hupdate : (runAll s before).updateDhcpRange = .ok t) (after : List RangeCall) :
    runAll s (before ++ update :: after) = runAll t after := by
  have hrun : (update.run (runAll s before)).2 = t := by rw [run, hupdate]
  rw [runAll, List.foldl_append, List.foldl_cons]
  exact congrArg (fun u => runAll u after) hrun

/-- What calls do after the last update that succeeds: they add reservations after the others
and leave the range as it is, so nothing lies in it that was in use at the update. -/
theorem runAll_after_update {s t : Subnet} (hgateway : s.cidr.first ≤ s.gateway.value)
    (hupdate : s.updateDhcpRange = .ok t) {after : List RangeCall} (hfail : UpdatesFail t after) :
    let made := runAll t after
    made = { t with reservations := made.reservations } ∧
      t.reservedAddresses <+: made.reservedAddresses ∧
      ∀ a ∈ made.gateway :: t.reservedAddresses, ¬made.IsSetAside a := by
  intro made
  obtain ⟨hframe, hprefix⟩ := runAll_of_updatesFail hfail
  refine ⟨hframe, prefix_reservedAddresses hprefix, fun a ha => ?_⟩
  have hsame : made.gateway = t.gateway := (congrArg Subnet.gateway hframe).trans rfl
  rw [hsame] at ha
  rw [isSetAside_congr hframe]
  exact (wellRanged_updateDhcpRange hgateway hupdate).not_isSetAside ha

/-- Whatever is reserved and set aside in a new subnet in whatever order, whether or not the
calls succeed: nothing is set aside while every update fails, and from then on the range is the
one of the last update that succeeded. Neither the gateway's address nor one that was reserved
at that update lies in it. So no address in use does exactly if none does of those that were
added since. -/
theorem not_isSetAside_runAll_create_iff (name : String) (cidr : Cidr) (vlan : UInt16)
    (calls : List RangeCall) :
    let new := create name cidr vlan
    let made := runAll new calls
    (UpdatesFail new calls ∧ made.dhcpStart = none ∧ made.dhcpEnd = none) ∨
    ∃ before after t added, calls = before ++ update :: after ∧
      (runAll new before).updateDhcpRange = .ok t ∧ UpdatesFail t after ∧
      made = { t with reservations := made.reservations } ∧
      made.reservedAddresses = t.reservedAddresses ++ added ∧
      (∀ a ∈ made.gateway :: t.reservedAddresses, ¬made.IsSetAside a) ∧
      ((∀ a ∈ made.gateway :: made.reservedAddresses, ¬made.IsSetAside a) ↔
        ∀ a ∈ added, ¬made.IsSetAside a) := by
  intro new made
  rcases updatesFail_or_exists new calls with hfail | ⟨before, after, t, rfl, hupdate, hfail⟩
  · have hmade : made = { new with reservations := made.reservations } :=
      (runAll_of_updatesFail hfail).1
    exact .inl ⟨hfail, by rw [hmade]; rfl, by rw [hmade]; rfl⟩
  · obtain ⟨hcidr, hgateway⟩ := cidr_and_gateway_runAll new before
    have hlow : (runAll new before).cidr.first ≤ (runAll new before).gateway.value := by
      rw [hcidr, hgateway]
      exact first_le_gateway_create name cidr vlan
    have hmade : made = runAll t after := runAll_append_update hupdate after
    obtain ⟨hframe, ⟨added, hadded⟩, hkept⟩ := runAll_after_update hlow hupdate hfail
    rw [← hmade] at hframe hadded hkept
    refine .inr ⟨before, after, t, added, rfl, hupdate, hfail, hframe, hadded.symm, hkept, ?_⟩
    rw [← hadded, ← List.cons_append, List.forall_mem_append, and_iff_right hkept]

/-- An address in use can be set aside: the next free address after an update is the first one
of the range. -/
theorem not_forall_not_isSetAside :
    ¬ ∀ (name : String) (cidr : Cidr) (vlan : UInt16) (calls : List RangeCall),
      let made := runAll (create name cidr vlan) calls
      ∀ a ∈ made.gateway :: made.reservedAddresses, ¬made.IsSetAside a := by
  intro hall
  refine hall "bootstrap_dhcp" (.ofOctets 10 252 1 0 24) 2 [update, reserve (.next "ncn-m001" "")]
    (.ofOctets 10 252 1 2) (by decide +kernel) ?_
  exact ⟨.ofOctets 10 252 1 2, by decide +kernel, .ofOctets 10 252 1 254, by decide +kernel,
    by decide +kernel, by decide +kernel⟩

end RangeCall

end SitePlan.Subnet
