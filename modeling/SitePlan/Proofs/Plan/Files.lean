import SitePlan.Proofs.Plan.ReadingBack
import SitePlan.Proofs.Yaml.RoundTrip

/-!
# The files of a plan

A plan is written as one file in JSON and one file in YAML for each of its networks. Each file is
found under its own path, and is read back with the readers of its notation. In YAML this needs the
texts of a network to have one line each.
-/

namespace SitePlan

open Yaml (IsLine IsKey)

/-! ### Networks in YAML -/

/-- The texts of a reservation. -/
def Reservation.texts (reservation : Reservation) : List String :=
  reservation.name :: reservation.comment :: reservation.aliases

/-- The texts of a subnet. -/
def Subnet.texts (subnet : Subnet) : List String :=
  subnet.name :: subnet.fullName ::
    (subnet.poolName.toList ++ subnet.reservations.flatMap Reservation.texts)

/-- The texts of a network. -/
def Network.texts (network : Network) : List String :=
  network.name :: network.fullName :: network.comment :: network.subnets.flatMap Subnet.texts

/-- A line break is neither a digit nor a mark of addresses. -/
theorem isDigit_of_isBreak {c : Char} (hc : Yaml.isBreak c = true) :
    c.isDigit = false ∧ c ≠ '.' ∧ c ≠ '/' := by
  simp only [Yaml.isBreak, Bool.or_eq_true, decide_eq_true_eq] at hc
  rcases hc with (rfl | rfl) | rfl <;> decide

/-- Addresses have one line. -/
@[simp] theorem Ipv4.isLine_render (ip : Ipv4) : IsLine ip.render := by
  intro c hc
  by_contra hbreak
  obtain ⟨hdigit, hpoint, -⟩ := isDigit_of_isBreak (Bool.not_eq_false _ ▸ hbreak)
  exact ip.not_mem_render hdigit hpoint hc

/-- Blocks have one line. -/
@[simp] theorem Cidr.isLine_render (b : Cidr) : IsLine b.render := by
  intro c hc
  rw [b.toList_render, List.mem_append, List.mem_cons] at hc
  rcases hc with hc | rfl | hc
  · exact b.address.isLine_render c hc
  · rfl
  · rw [← Nat.toList_repr] at hc
    exact (Yaml.inline_natural _ c hc).2

/-- The names of fields may stand before a colon. -/
theorem isKey_of_mem {name : String}
    (hname : name ∈ ["Name", "FullName", "CIDR", "VlanRange", "MTU", "Type", "Comment", "Subnets",
      "Gateway", "VlanID", "IPReservations", "DHCPStart", "DHCPEnd", "MetalLBPoolName",
      "IPAddress", "Aliases"]) : IsKey name := by
  have hall : ∀ name ∈ ["Name", "FullName", "CIDR", "VlanRange", "MTU", "Type", "Comment",
      "Subnets", "Gateway", "VlanID", "IPReservations", "DHCPStart", "DHCPEnd", "MetalLBPoolName",
      "IPAddress", "Aliases"], IsKey name := by
    decide +kernel
  exact hall name hname

/-- A reservation is made of its texts. -/
theorem Reservation.madeOf {reservation : Reservation}
    (hline : ∀ text ∈ reservation.texts, IsLine text) :
    reservation.toJson.MadeOf IsLine IsKey := by
  simp only [texts, List.forall_mem_cons] at hline
  obtain ⟨hname, hcomment, haliases⟩ := hline
  simpa [toJson, Ipv4.toJson, isKey_of_mem, hname, hcomment] using fun _ => haliases

/-- A subnet is made of its texts. -/
theorem Subnet.madeOf {subnet : Subnet} (hline : ∀ text ∈ subnet.texts, IsLine text) :
    subnet.toJson.MadeOf IsLine IsKey := by
  simp only [texts, List.forall_mem_cons, List.forall_mem_append, List.forall_mem_flatMap] at hline
  obtain ⟨hname, hfullName, hpoolName, hreservations⟩ := hline
  have hmade : ∀ reservation ∈ subnet.reservations, reservation.toJson.MadeOf IsLine IsKey :=
    fun reservation hin => Reservation.madeOf (hreservations reservation hin)
  have hpool : ∀ name, subnet.poolName = some name → IsLine name := by simpa using hpoolName
  simpa [toJson, Ipv4.toJson, Cidr.toJson, isKey_of_mem, hname, hfullName] using
    ⟨fun _ => hmade, hpool⟩

/-- A network is made of its texts. -/
theorem Network.madeOf {network : Network} (hline : ∀ text ∈ network.texts, IsLine text) :
    network.toJson.MadeOf IsLine IsKey := by
  simp only [texts, List.forall_mem_cons, List.forall_mem_flatMap] at hline
  obtain ⟨hname, hfullName, hcomment, hsubnets⟩ := hline
  have hmade : ∀ subnet ∈ network.subnets, subnet.toJson.MadeOf IsLine IsKey :=
    fun subnet hin => Subnet.madeOf (hsubnets subnet hin)
  have hfabric : IsLine network.fabric.name := by
    cases network.fabric <;> decide
  simpa [toJson, Cidr.toJson, VlanRange.toJson, isKey_of_mem, hname, hfullName, hcomment,
    hfabric] using hmade

namespace Plan

/-! ### Paths -/

/-- The path of a network's file stands in the directory of networks. -/
theorem toList_networkFile (name : String) :
    (networkFile name).toList = "networks/".toList ++ (name.toList ++ ".yaml".toList) := by
  have hpath : networkFile name = "networks" ++ "/" ++ name ++ ".yaml" := rfl
  rw [hpath]
  simp

/-- The path of a network's file names the network. -/
theorem networkFile_injective : Function.Injective networkFile := by
  intro name other hsame
  have hchars := congrArg String.toList hsame
  rw [toList_networkFile, toList_networkFile, List.append_cancel_left_eq,
    List.append_cancel_right_eq] at hchars
  exact String.toList_inj.mp hchars

/-- The files of a plan have different paths. -/
theorem nodup_fileList (plan : Plan) : (plan.fileList.map Prod.fst).Nodup := by
  have hpaths : plan.fileList.map Prod.fst = serviceFile :: plan.networks.keys.map networkFile := by
    simp [fileList, SortedMap.keys]
  have hservice : serviceFile ∉ plan.networks.keys.map networkFile := by
    intro hin
    obtain ⟨name, -, hsame⟩ := List.mem_map.mp hin
    have hfirst := congrArg (fun path => path.toList.head?) hsame
    simp [toList_networkFile, serviceFile] at hfirst
  rw [hpaths, List.nodup_cons]
  exact ⟨hservice, plan.networks.nodup_keys.map networkFile_injective⟩

/-- A file of a plan is found under its path. -/
theorem get?_files {plan : Plan} {path text : String} (hfile : (path, text) ∈ plan.fileList) :
    plan.files.get? path = some text :=
  SortedMap.get?_eq_some_iff.mpr
    ((SortedMap.perm_entries_ofList plan.nodup_fileList).mem_iff.mpr hfile)

/-- The files of a plan are read back: the one for the layout service as the whole plan, and that
of each network, whose texts have one line each, as the network. Only that networks are sealed is
forgotten. -/
theorem files_read_back (plan : Plan) :
    (∃ text, plan.files.get? serviceFile = some text ∧
      (Json.parse? text).bind read? = some plan.unsealed) ∧
    ∀ name network, plan.networks.get? name = some network →
      (∀ text ∈ network.texts, IsLine text) →
      ∃ text, plan.files.get? (networkFile name) = some text ∧
        (Yaml.parse? text).bind Network.read? = some network.unsealed := by
  refine ⟨⟨Json.render plan.toJson, get?_files List.mem_cons_self,
    Document.read_parse?_render plan.recovers plan.plain⟩, fun name network hnetwork hline => ?_⟩
  have hfile : (networkFile name, Yaml.render network.toJson) ∈ plan.fileList :=
    List.mem_cons_of_mem _
      (List.mem_map.mpr ⟨(name, network), SortedMap.get?_eq_some_iff.mp hnetwork, rfl⟩)
  exact ⟨_, get?_files hfile, Yaml.read_parse?_render network.recovers (Network.madeOf hline)⟩

/-- A network whose texts look like other things, a truth value and a field. -/
def disguisedNetwork : Network where
  name := "no"
  cidr := .ofOctets 10 252 1 5 19
  vlanRange := ⟨2, 4⟩
  mtu := 9000
  fabric := .ethernet
  comment := "pit: x"
  isSealed := true

-- The files of networks are in YAML, where such texts have quotes.
example : (Yaml.parse? (Yaml.render disguisedNetwork.toJson)).bind Network.read? =
    some disguisedNetwork.unsealed := by
  decide +kernel

end Plan

end SitePlan
