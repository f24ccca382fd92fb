import SitePlan.Proofs.Subnet.ReservingRuns

/-!
# Reserving again

Reserving for a group of devices can be repeated. A run answers what is asked for the devices one
after another, up to the first one that finds no address. An answer stays one whatever is reserved
after it, and answering again changes nothing, so a second run passes over everything that the
first one answered and ends as that did.
-/

namespace SitePlan.Subnet

/-- The reservation that is found under the name of the request has all of the further names. -/
def Answers (s : Subnet) (request : Request) : Prop :=
  ∃ r, s.find? request.name = some r ∧ request.aliases ⊆ r.aliases

/-- How a run through requests ends, and in which subnet. -/
inductive RunEnds (requests : List Request) : Except AddressError Unit × Subnet → Prop
  /-- Every request is answered. -/
  | answered {t : Subnet} (hall : ∀ request ∈ requests, t.Answers request) :
      RunEnds requests (.ok (), t)
  /-- The requests before one are answered, and this one is for a name without a reservation,
  for which there is no address. -/
  | exhausted {t : Subnet} (before after : List Request) (request : Request)
      (hsplit : requests = before ++ request :: after)
      (hbefore : ∀ earlier ∈ before, t.Answers earlier) (hnew : request.name ∉ t.reservedNames)
      (hfull : ¬∃ a, t.IsFree a) :
      RunEnds requests (.error (.exhausted t.name t.cidr request.name), t)

/-! ### What is found under a name -/

/-- A new reservation is found under its name unless an older one is. -/
theorem find?_push (s : Subnet) (r : Reservation) (key : String) :
    (s.push r).find? key = (s.find? key).or (if r.name = key then some r else none) := by
  simp [find?, push, List.find?_append, List.find?_singleton]

/-- Changing a reservation of a name changes what is found under this name and no other. -/
theorem find?_modifyReservation (s : Subnet) (name key : String)
    {change : Reservation → Reservation} (hname : ∀ r, (change r).name = r.name) :
    (s.modifyReservation name change).find? key =
      if key = name then (s.find? key).map change else s.find? key := by
  simp only [find?, modifyReservation]
  induction s.reservations with
  | nil => simp [modifyReservation.go]
  | cons r rest ih =>
    unfold modifyReservation.go
    by_cases hr : r.name = name
    · by_cases hkey : key = name
      · simp [hr, hkey, hname]
      · have hother : name ≠ key := Ne.symm hkey
        simp [hr, hkey, hname, hother]
    · by_cases hkey : r.name = key
      · have hother : key ≠ name := fun h => hr (hkey.trans h)
        simp [hkey, hother]
      · rw [if_neg hr, List.find?_cons_of_neg (by simpa using hkey), ih,
          List.find?_cons_of_neg (by simpa using hkey)]

/-- The reservation that reserving gives is found under its name, and what was found under a name
still is. -/
theorem find?_of_reserve {s t : Subnet} {name comment : String} {r : Reservation}
    (hreserve : s.reserve name comment = .ok (r, t)) :
    t.find? name = some r ∧ ∀ key found, s.find? key = some found → t.find? key = some found := by
  rcases reserve_cases hreserve with ⟨hfound, rfl⟩ | ⟨hr, rfl, _, rfl⟩
  · exact ⟨hfound, fun _ _ => id⟩
  · refine ⟨?_, fun key found hfound => ?_⟩
    · rw [find?_push, find?_eq_none.mpr hr.isNew, if_pos rfl, Option.none_or]
    · rw [find?_push, hfound, Option.some_or]

/-! ### Further names -/

/-- A name is there after names were added exactly if it was there before or is one of them. -/
theorem mem_foldl_addName {names added : List String} {name : String} :
    name ∈ added.foldl addName names ↔ name ∈ names ∨ name ∈ added := by
  induction added generalizing names with
  | nil => simp
  | cons first rest ih =>
    rw [List.foldl_cons, ih, List.mem_cons, ← or_assoc]
    refine or_congr_left ?_
    unfold addName
    split_ifs with hthere
    · refine (or_iff_left_of_imp ?_).symm
      rintro rfl
      simpa using hthere
    · rw [List.mem_append, List.mem_singleton]

/-! ### One request -/

/-- What is found under a name after a request was answered: what was found before, perhaps with
more further names. -/
theorem find?_of_answer {s t : Subnet} {request : Request} (hanswer : s.answer request = .ok t)
    {key : String} {found : Reservation} (hfound : s.find? key = some found) :
    ∃ r, t.find? key = some r ∧ found.aliases ⊆ r.aliases := by
  obtain ⟨r, u, hreserve, rfl⟩ := answer_eq_ok_iff.mp hanswer
  have hkept := (find?_of_reserve hreserve).2 key found hfound
  rw [find?_modifyReservation _ _ _ (name_withNames _), hkept]
  split_ifs
  · exact ⟨withNames request.aliases found, rfl,
      fun name hname => mem_foldl_addName.mpr (.inl hname)⟩
  · exact ⟨found, rfl, List.Subset.refl _⟩

/-- A request that is answered stays answered when another one is. -/
theorem Answers.answer {s t : Subnet} {request other : Request} (hs : s.Answers request)
    (hanswer : s.answer other = .ok t) : t.Answers request := by
  obtain ⟨found, hfound, hnames⟩ := hs
  obtain ⟨r, hr, hkept⟩ := find?_of_answer hanswer hfound
  exact ⟨r, hr, List.Subset.trans hnames hkept⟩

/-- Answering a request answers it. -/
theorem answers_of_answer {s t : Subnet} {request : Request}
    (hanswer : s.answer request = .ok t) : t.Answers request := by
  obtain ⟨r, u, hreserve, rfl⟩ := answer_eq_ok_iff.mp hanswer
  refine ⟨withNames request.aliases r, ?_, fun name hname => mem_foldl_addName.mpr (.inr hname)⟩
  rw [find?_modifyReservation _ _ _ (name_withNames _), if_pos rfl, (find?_of_reserve hreserve).1]
  rfl

/-- Answering a request that is answered changes nothing. -/
theorem Answers.answer_eq {s : Subnet} {request : Request} (hs : s.Answers request) :
    s.answer request = .ok s := by
  obtain ⟨r, hfound, hnames⟩ := hs
  have hreserve : s.reserve request.name request.comment = .ok (r, s) := by
    simp only [reserve, hfound]
  simp only [Subnet.answer, hreserve]
  rw [modifyReservation_eq_self]
  intro other hother
  obtain rfl : r = other := Option.some.inj (hfound.symm.trans hother)
  exact withNames_eq_self hnames

/-- A request fails exactly if its name has no reservation and there is no address for it. -/
theorem answer_eq_error_iff {s : Subnet} {request : Request} {fault : AddressError} :
    s.answer request = .error fault ↔ fault = .exhausted s.name s.cidr request.name ∧
      request.name ∉ s.reservedNames ∧ ¬∃ a, s.IsFree a := by
  unfold Subnet.answer
  by_cases hold : request.name ∈ s.reservedNames
  · obtain ⟨r, _, _, hreserve⟩ := reserve_of_mem hold request.comment
    simp [hreserve, hold]
  · by_cases hfree : ∃ a, s.IsFree a
    · obtain ⟨a, _, hreserve⟩ := reserve_of_isFree hold hfree request.comment
      simp [hreserve, hfree]
    · rw [(reserve_eq_exhausted_iff hold request.comment).mpr hfree]
      simp [hold, hfree, eq_comm]

/-! ### Runs -/

/-- A request that is answered stays answered in a run through others. -/
theorem Answers.answerAll {s : Subnet} {request : Request} (hs : s.Answers request)
    (requests : List Request) : (s.answerAll requests).2.Answers request := by
  induction requests generalizing s with
  | nil => exact hs
  | cons other rest ih =>
    unfold Subnet.answerAll
    split
    · exact hs
    · next t hanswer => exact ih (hs.answer hanswer)

/-- A run passes over requests that are answered. -/
theorem answerAll_append_of_answers {s : Subnet} {answered : List Request}
    (hall : ∀ request ∈ answered, s.Answers request) (rest : List Request) :
    s.answerAll (answered ++ rest) = s.answerAll rest := by
  induction answered with
  | nil => rfl
  | cons request more ih =>
    obtain ⟨hfirst, hmore⟩ := List.forall_mem_cons.mp hall
    rw [List.cons_append, Subnet.answerAll, hfirst.answer_eq]
    exact ih hmore

/-- A run answers every request, or those before the first one that finds no address. -/
theorem runEnds_answerAll (s : Subnet) (requests : List Request) :
    RunEnds requests (s.answerAll requests) := by
  induction requests generalizing s with
  | nil => exact .answered (by simp)
  | cons request rest ih =>
    unfold answerAll
    split
    · next fault hfault =>
      obtain ⟨rfl, hnew, hfull⟩ := answer_eq_error_iff.mp hfault
      exact .exhausted [] rest request rfl (by simp) hnew hfull
    · next t hanswer =>
      have hfirst := (answers_of_answer hanswer).answerAll rest
      cases hrest : t.answerAll rest with
      | mk outcome u =>
        have hends := ih t
        rw [hrest] at hfirst hends
        cases hends with
        | answered hall => exact .answered (List.forall_mem_cons.mpr ⟨hfirst, hall⟩)
        | exhausted before after full hsplit hbefore hnew hfull =>
          exact .exhausted (request :: before) after full (by rw [hsplit, List.cons_append])
            (List.forall_mem_cons.mpr ⟨hfirst, hbefore⟩) hnew hfull

/-- A run in the subnet that the same run has left behind ends as that did. -/
theorem RunEnds.answerAll_eq {requests : List Request}
    {result : Except AddressError Unit × Subnet} (hends : RunEnds requests result) :
    result.2.answerAll requests = result := by
  cases hends with
  | answered hall =>
    have hpassed := answerAll_append_of_answers hall []
    rwa [List.append_nil] at hpassed
  | exhausted before after full hsplit hbefore hnew hfull =>
    rw [hsplit, answerAll_append_of_answers hbefore, Subnet.answerAll,
      answer_eq_error_iff.mpr ⟨rfl, hnew, hfull⟩]

/-! ### Groups of devices -/

/-- What answers requests in every subnet answers all of them, or those before the first one that
finds no address, and done again it has the same outcome and leaves the subnet as it is. -/
theorem runEnds_and_repeats {requests : List Request}
    {run : Subnet → Except AddressError Unit × Subnet}
    (hrun : ∀ s, run s = s.answerAll requests) (s : Subnet) :
    RunEnds requests (run s) ∧ run (run s).2 = run s := by
  have hends : RunEnds requests (run s) := hrun s ▸ runEnds_answerAll s requests
  exact ⟨hends, (hrun (run s).2).trans hends.answerAll_eq⟩

/-- Reserving for a group can be repeated. Whatever the subnet holds: reserving for management
nodes or for switches answers every request, or those before the first one that finds no address,
and doing it again has the same outcome and leaves the subnet as it is. -/
theorem reserveGroups_idempotent (s : Subnet) :
    (∀ (network : String) (nodes : List ManagementNode),
      let result := s.reserveNodes network nodes
      RunEnds (nodeRequests network nodes) result ∧
        result.2.reserveNodes network nodes = result) ∧
    ∀ (xs : SwitchXnames) (spares : Nat),
      let result := s.reserveSwitches xs spares
      RunEnds (switchRequests xs spares) result ∧
        result.2.reserveSwitches xs spares = result :=
  ⟨fun network nodes =>
      runEnds_and_repeats (fun s => reserveNodes_eq_answerAll s network nodes) s,
    fun xs spares => runEnds_and_repeats (fun s => reserveSwitches_eq_answerAll s xs spares) s⟩

/-- A run can stop half-way: there is one address in the block, and the second node gets none. -/
example :
    let s := create "bootstrap_dhcp" (.ofOctets 10 0 0 0 30) 2
    let result := s.reserveNodes "NMN"
      [⟨"x3000c0s1b0n0", "ncn-m001"⟩, ⟨"x3000c0s3b0n0", "ncn-m002"⟩]
    result.1.toOption = none ∧ result.2.reservations =
      [⟨"ncn-m001", .ofOctets 10 0 0 2, "x3000c0s1b0n0", ["ncn-m001-nmn", "ncn-m001.local"]⟩] := by
  decide +kernel

end SitePlan.Subnet
