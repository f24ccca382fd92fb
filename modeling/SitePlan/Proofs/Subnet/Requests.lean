import SitePlan.Proofs.Subnet.Reservations

/-!
# Requests

Reserving for a group of devices answers requests one after another, up to the first one that
finds no address. Management nodes and switches differ only in what they ask for, so what
reserving makes of a subnet is said once, for requests. It goes by name, and a name that has an
address keeps it: every request gets a reservation of its own as long as the names are new and
different, and a second request under a name is passed over in silence.
-/

namespace SitePlan.Subnet

/-- What is asked for a device. -/
structure Request where
  /-- The name that an address is reserved for. -/
  name : String
  /-- What the reservation is for, if it is a new one. -/
  comment : String
  /-- The further names that the reservation shall have. -/
  aliases : List String := []

/-- The request that a management node makes in a network whose name is given in lower case. -/
def nodeRequest (network : String) (node : ManagementNode) : Request :=
  ⟨node.hostName, node.xname, nodeAliases network node.hostName⟩

/-- The requests of management nodes in a network. -/
def nodeRequests (network : String) (nodes : List ManagementNode) : List Request :=
  nodes.map (nodeRequest (Text.lowerText network))

/-- What is asked for switches to come, numbered from the given number on. -/
def spareRequestsFrom (number count : Nat) : List (String × String) :=
  (List.range' number count).map fun k =>
    (deviceName spareStem k, "reserved for a future management switch")

/-- The requests of switches by role and of switches to come. -/
def switchRequests (xs : SwitchXnames) (spares : Nat) : List Request :=
  (xs.requests ++ spareRequestsFrom 1 spares).map fun request => ⟨request.1, request.2, []⟩

/-- The reservation with further names. -/
def withNames (names : List String) (r : Reservation) : Reservation :=
  { r with aliases := names.foldl addName r.aliases }

/-- Further names do not change the name of a reservation. -/
@[simp] theorem name_withNames (names : List String) (r : Reservation) :
    (withNames names r).name = r.name :=
  rfl

/-- Reserves an address for a request and gives the reservation the further names. -/
def answer (s : Subnet) (request : Request) : Except AddressError Subnet :=
  match s.reserve request.name request.comment with
  | .error fault => .error fault
  | .ok (_, t) => .ok (t.modifyReservation request.name (withNames request.aliases))

/-- Answers requests one after another, up to the first one that finds no address. -/
def answerAll (s : Subnet) : List Request → Except AddressError Unit × Subnet
  | [] => (.ok (), s)
  | request :: rest =>
    match s.answer request with
    | .error fault => (.error fault, s)
    | .ok t => answerAll t rest

/-- A request is answered by reserving for its name and by naming. -/
theorem answer_eq_ok_iff {s t : Subnet} {request : Request} :
    s.answer request = .ok t ↔
      ∃ r u, s.reserve request.name request.comment = .ok (r, u) ∧
        t = u.modifyReservation request.name (withNames request.aliases) := by
  unfold answer
  cases s.reserve request.name request.comment with
  | error fault => simp
  | ok reserved => simp [Prod.ext_iff, eq_comm]

/-! ### Groups of devices -/

/-- A change that leaves the reservation of a name as it is changes nothing. -/
theorem modifyReservation_eq_self {s : Subnet} {name : String}
    {change : Reservation → Reservation} (hsame : ∀ r, s.find? name = some r → change r = r) :
    s.modifyReservation name change = s := by
  suffices hlist : modifyReservation.go name change s.reservations = s.reservations by
    rw [modifyReservation, hlist]
  simp only [find?] at hsame
  generalize s.reservations = rs at hsame ⊢
  induction rs with
  | nil => rfl
  | cons r rest ih =>
    unfold modifyReservation.go
    by_cases hr : r.name = name
    · rw [if_pos hr, hsame r (by simp [hr])]
    · rw [List.find?_cons_of_neg (by simpa using hr)] at hsame
      rw [if_neg hr, ih hsame]

/-- Names that are there are not added again. -/
theorem foldl_addName_eq_self {names added : List String} (hthere : added ⊆ names) :
    added.foldl addName names = names := by
  induction added with
  | nil => rfl
  | cons first rest ih =>
    obtain ⟨hfirst, hrest⟩ := List.cons_subset.mp hthere
    rw [List.foldl_cons, addName, if_pos (by simpa using hfirst), ih hrest]

/-- A reservation that has the names stays as it is. -/
theorem withNames_eq_self {names : List String} {r : Reservation} (hthere : names ⊆ r.aliases) :
    withNames names r = r := by
  rw [withNames, foldl_addName_eq_self hthere]

/-- Reserving for names with comments is answering requests without further names. -/
theorem reserveAll_eq_answerAll (s : Subnet) (requests : List (String × String)) :
    s.reserveAll requests =
      s.answerAll (requests.map fun request => ⟨request.1, request.2, []⟩) := by
  induction requests generalizing s with
  | nil => rfl
  | cons request rest ih =>
    rw [reserveAll, List.map_cons, answerAll, answer]
    dsimp only
    cases s.reserve request.1 request.2 with
    | error fault => rfl
    | ok reserved =>
      dsimp only
      rw [modifyReservation_eq_self fun _ _ => withNames_eq_self (List.nil_subset _)]
      exact ih reserved.2

/-- Reserving goes through two lists of requests one after the other. -/
theorem reserveAll_append (s : Subnet) (requests more : List (String × String)) :
    s.reserveAll (requests ++ more) =
      match s.reserveAll requests with
      | (.ok (), s) => s.reserveAll more
      | failed => failed := by
  induction requests generalizing s with
  | nil => rfl
  | cons request rest ih =>
    rw [List.cons_append, reserveAll, reserveAll]
    cases s.reserve request.1 request.2 with
    | error fault => rfl
    | ok reserved => exact ih reserved.2

/-- Keeping addresses for switches to come is reserving them under their names. -/
theorem reserveSpares_eq_reserveAll (s : Subnet) (number count : Nat) :
    s.reserveSpares number count = s.reserveAll (spareRequestsFrom number count) := by
  induction count generalizing s number with
  | zero => rfl
  | succ count ih =>
    unfold reserveSpares
    rw [spareRequestsFrom, List.range'_succ, List.map_cons, reserveAll]
    cases s.reserve (deviceName spareStem number)
        "reserved for a future management switch" with
    | error fault => rfl
    | ok reserved => exact ih reserved.2 (number + 1)

/-- Reserving for switches is reserving for them by role and then for those to come. -/
theorem reserveSwitches_eq_reserveAll (s : Subnet) (xs : SwitchXnames) (spares : Nat) :
    s.reserveSwitches xs spares = s.reserveAll (xs.requests ++ spareRequestsFrom 1 spares) := by
  rw [reserveAll_append, reserveSwitches]
  rcases s.reserveAll xs.requests with ⟨fault | _, t⟩
  · rfl
  · exact reserveSpares_eq_reserveAll t 1 spares

/-- Reserving for switches is answering their requests. -/
theorem reserveSwitches_eq_answerAll (s : Subnet) (xs : SwitchXnames) (spares : Nat) :
    s.reserveSwitches xs spares = s.answerAll (switchRequests xs spares) := by
  rw [reserveSwitches_eq_reserveAll, reserveAll_eq_answerAll, switchRequests]

/-- Reserving for management nodes is answering their requests, in a network whose name is given
in lower case. -/
theorem reserveNodesAs_eq_answerAll (network : String) (s : Subnet)
    (nodes : List ManagementNode) :
    s.reserveNodesAs network nodes = s.answerAll (nodes.map (nodeRequest network)) := by
  induction nodes generalizing s with
  | nil => rfl
  | cons node rest ih =>
    rw [reserveNodesAs, List.map_cons, answerAll, answer, nodeRequest]
    dsimp only
    cases s.reserve node.hostName node.xname with
    | error fault => rfl
    | ok reserved => exact ih _

/-- Reserving for management nodes is answering their requests. -/
theorem reserveNodes_eq_answerAll (s : Subnet) (network : String) (nodes : List ManagementNode) :
    s.reserveNodes network nodes = s.answerAll (nodeRequests network nodes) :=
  reserveNodesAs_eq_answerAll (Text.lowerText network) s nodes

/-! ### Reservations stay apart -/

/-- Answering a request is reserving and naming. -/
theorem reservedFrom_answer {s t : Subnet} {request : Request}
    (hanswer : s.answer request = .ok t) : s.ReservedFrom t := by
  obtain ⟨r, u, hreserve, rfl⟩ := answer_eq_ok_iff.mp hanswer
  exact (reservedFrom_reserve hreserve).rename request.name
    fun aliases => request.aliases.foldl addName aliases

/-- Answering requests one after another is reserving and naming, also up to a fault. -/
theorem reservedFrom_answerAll (s : Subnet) (requests : List Request) :
    s.ReservedFrom (s.answerAll requests).2 := by
  induction requests generalizing s with
  | nil => exact .start
  | cons request rest ih =>
    unfold answerAll
    split
    · exact .start
    · next t hanswer => exact (reservedFrom_answer hanswer).trans (ih t)

/-- Addresses are reserved for names one after another, also up to a fault. -/
theorem reservedFrom_reserveAll (s : Subnet) (requests : List (String × String)) :
    s.ReservedFrom (s.reserveAll requests).2 := by
  rw [reserveAll_eq_answerAll]
  exact reservedFrom_answerAll s _

/-- Reserving for switches is reserving. -/
theorem reservedFrom_reserveSwitches (s : Subnet) (xs : SwitchXnames) (spares : Nat) :
    s.ReservedFrom (s.reserveSwitches xs spares).2 := by
  rw [reserveSwitches_eq_answerAll]
  exact reservedFrom_answerAll s _

/-- Reserving for management nodes is reserving and naming. -/
theorem reservedFrom_reserveNodes (s : Subnet) (network : String)
    (nodes : List ManagementNode) :
    s.ReservedFrom (s.reserveNodes network nodes).2 := by
  rw [reserveNodes_eq_answerAll]
  exact reservedFrom_answerAll s _

/-! ### One reservation for every request -/

/-- The names with reservations and what the reservations are for. -/
def labels (s : Subnet) : List (String × String) :=
  s.reservations.map fun r => (r.name, r.comment)

/-- The names of labels are the names with reservations. -/
theorem map_fst_labels (s : Subnet) : s.labels.map Prod.fst = s.reservedNames := by
  rw [labels, List.map_map]
  rfl

/-- A new name gets a reservation with its comment after the others. -/
theorem labels_reserve {s t : Subnet} {name comment : String} {r : Reservation}
    (hnew : name ∉ s.reservedNames) (hreserve : s.reserve name comment = .ok (r, t)) :
    t.labels = s.labels ++ [(name, comment)] := by
  rcases reserve_cases hreserve with ⟨hfound, _⟩ | ⟨_, hname, hcomment, rfl⟩
  · rw [find?_eq_none.mpr hnew] at hfound
    cases hfound
  · simp [labels, Subnet.push, hname, hcomment]

/-- A request under a new name gets a reservation with its comment after the others. -/
theorem labels_answer {s t : Subnet} {request : Request}
    (hnew : request.name ∉ s.reservedNames) (hanswer : s.answer request = .ok t) :
    t.labels = s.labels ++ [(request.name, request.comment)] := by
  obtain ⟨r, u, hreserve, rfl⟩ := answer_eq_ok_iff.mp hanswer
  rw [← labels_reserve hnew hreserve]
  exact map_modifyReservation u request.name _ _ fun _ => rfl

/-- Requests under new and different names get one reservation each, in their order. -/
theorem labels_answerAll {s t : Subnet} {requests : List Request}
    (hnew : ∀ name ∈ requests.map Request.name, name ∉ s.reservedNames)
    (hnames : (requests.map Request.name).Nodup)
    (hok : s.answerAll requests = (.ok (), t)) :
    t.labels = s.labels ++ requests.map fun request => (request.name, request.comment) := by
  induction requests generalizing s with
  | nil =>
    cases hok
    simp
  | cons request rest ih =>
    obtain ⟨hfirst, hnames⟩ := List.nodup_cons.mp hnames
    obtain ⟨hnewFirst, hnewRest⟩ := List.forall_mem_cons.mp hnew
    unfold answerAll at hok
    split at hok
    · cases hok
    next u hanswer =>
    have hlabels := labels_answer hnewFirst hanswer
    have hlater : ∀ name ∈ rest.map Request.name, name ∉ u.reservedNames := by
      intro name hname hmem
      rw [← map_fst_labels, hlabels, List.map_append, map_fst_labels] at hmem
      rcases List.mem_append.mp hmem with hold | hsingle
      · exact hnewRest name hname hold
      · obtain rfl := List.mem_singleton.mp hsingle
        exact hfirst hname
    rw [ih hlater hnames hok, hlabels, List.append_assoc]
    rfl

/-- New and different names get one reservation each, in their order. -/
theorem labels_reserveAll {s t : Subnet} {requests : List (String × String)}
    (hnew : ∀ name ∈ requests.map Prod.fst, name ∉ s.reservedNames)
    (hnames : (requests.map Prod.fst).Nodup) (hok : s.reserveAll requests = (.ok (), t)) :
    t.labels = s.labels ++ requests := by
  rw [reserveAll_eq_answerAll] at hok
  have hlabels := labels_answerAll (by simpa using hnew)
    (by simpa [Function.comp_def] using hnames) hok
  simpa [Function.comp_def] using hlabels

/-- Nodes of new and different host names get one reservation each, in their order. -/
theorem labels_reserveNodesAs {network : String} {s t : Subnet} {nodes : List ManagementNode}
    (hnew : ∀ node ∈ nodes, node.hostName ∉ s.reservedNames)
    (hnames : (nodes.map ManagementNode.hostName).Nodup)
    (hreserve : s.reserveNodesAs network nodes = (.ok (), t)) :
    t.labels = s.labels ++ nodes.map fun node => (node.hostName, node.xname) := by
  rw [reserveNodesAs_eq_answerAll] at hreserve
  have hlabels := labels_answerAll (by simpa [nodeRequest] using hnew)
    (by simpa [nodeRequest, Function.comp_def] using hnames) hreserve
  simpa [nodeRequest, Function.comp_def] using hlabels

end SitePlan.Subnet
