import SitePlan.Plan.Generation
import SitePlan.Proofs.Layout.Bootstrap
import SitePlan.Proofs.Layout.Soundness
import SitePlan.Proofs.Synthesis.ManagementHosts

/-!
# Addresses of management nodes

A plan keeps addresses for management nodes in the subnets in which machines start. The
nodes are found by their host names there, so every node has an address of its own exactly
if no two nodes have the same role and number.
-/

namespace SitePlan

open Hardware Outcome

/-- The record is of a management node. -/
def Hardware.Record.IsManagement (r : Record) : Prop :=
  ∃ p, r.node? = some p ∧ p.role = .management

/-- The reservation is kept for the node of the record: it has the node's first host name,
and its comment is where the node lies. -/
def Reservation.IsFor (a : Reservation) (r : Record) : Prop :=
  a.comment = r.xname ∧ r.hostNames.head? = some a.name

/-- Every management node of the records has a reservation in the subnet, and two of them
have different addresses. -/
structure Subnet.AddressesNodes (s : Subnet) (records : List Record) : Prop where
  /-- Every management node has a reservation. -/
  addressed : ∀ r ∈ records, r.IsManagement → ∃ a ∈ s.reservations, a.IsFor r
  /-- Reservations for different management nodes have different addresses. -/
  apart : ∀ r ∈ records, r.IsManagement → ∀ r' ∈ records, r'.IsManagement → r ≠ r' →
    ∀ a ∈ s.reservations, a.IsFor r → ∀ a' ∈ s.reservations, a'.IsFor r' →
      a.address ≠ a'.address

/-- A record is that of a planned node if it is of a management node with this first host
name at this place. -/
theorem ofRecord?_eq_some {r : Record} {node : ManagementNode} :
    ManagementNode.ofRecord? r = some node ↔
      r.IsManagement ∧ node.xname = r.xname ∧ r.hostNames.head? = some node.hostName := by
  unfold ManagementNode.ofRecord? Record.IsManagement Record.hostNames
  cases hnode : r.node? with
  | none => simp
  | some p =>
    by_cases hrole : p.role = .management
    · obtain ⟨xname, hostName⟩ := node
      cases hhead : p.aliases.head? <;> simp [hrole, hhead, eq_comm]
    · simp [hrole]

/-- Only the management nodes among the records matter. -/
theorem Subnet.AddressesNodes.congr {s : Subnet} {records others : List Record}
    (hsame : ∀ r, r.IsManagement → (r ∈ others ↔ r ∈ records))
    (hs : s.AddressesNodes records) : s.AddressesNodes others where
  addressed r hr hmanagement := hs.addressed r ((hsame r hmanagement).mp hr) hmanagement
  apart r hr hmanagement r' hr' hmanagement' :=
    hs.apart r ((hsame r hmanagement).mp hr) hmanagement r' ((hsame r' hmanagement').mp hr')
      hmanagement'

namespace Plan

open Layout Synthesis

/-- Nodes that have addresses of their own have different host names. -/
theorem nodup_hostNames_of_addressesNodes {s : Subnet} {inventory : Inventory}
    (hfiled : inventory.Filed) (hnames : s.reservedNames.Nodup)
    (hs : s.AddressesNodes inventory.values) :
    ((ManagementNode.ofInventory inventory).map ManagementNode.hostName).Nodup := by
  have hsorted : (ManagementNode.ofInventory inventory).Perm
      (inventory.values.filterMap ManagementNode.ofRecord?) := sortBy_perm _ _
  rw [(hsorted.map ManagementNode.hostName).nodup_iff, List.map_filterMap,
    ← shareNothing_toList_iff (hfiled.nodup_xnames.of_map _)]
  intro a ha b hb hne name hnamea hnameb
  simp only [Option.mem_toList, Option.map_eq_some_iff] at hnamea hnameb
  obtain ⟨node, hnode, rfl⟩ := hnamea
  obtain ⟨node', hnode', hsame⟩ := hnameb
  obtain ⟨hmanagement, _, hhead⟩ := ofRecord?_eq_some.mp hnode
  obtain ⟨hmanagement', _, hhead'⟩ := ofRecord?_eq_some.mp hnode'
  obtain ⟨r, hr, hcomment, hname⟩ := hs.addressed a ha hmanagement
  obtain ⟨r', hr', hcomment', hname'⟩ := hs.addressed b hb hmanagement'
  rw [hhead, Option.some.injEq] at hname
  rw [hhead', Option.some.injEq] at hname'
  -- One name has one reservation, which lies in one place.
  have heq : r = r' := List.inj_on_of_nodup_map hnames hr hr' (by rw [← hname, ← hname', hsame])
  exact hne (hfiled.eq_of_xname ha hb (by rw [← hcomment, ← hcomment', heq]))

/-- Nodes of different host names, which nothing else has, get addresses of their own. -/
theorem addressesNodes_of_nodup_hostNames {network : String} {pinned s : Subnet}
    {inventory : Inventory} (hfiled : inventory.Filed) (hs : s.WellReserved)
    (hheads : ∀ r ∈ inventory.values, r.IsManagement → r.hostNames ≠ [])
    (hnew : ∀ node ∈ ManagementNode.ofInventory inventory,
      node.hostName ∉ pinned.reservedNames)
    (hnames : ((ManagementNode.ofInventory inventory).map ManagementNode.hostName).Nodup)
    (hreserve : pinned.reserveNodesAs network (ManagementNode.ofInventory inventory) =
      (.ok (), s)) :
    s.AddressesNodes inventory.values where
  addressed r hr hmanagement := by
    obtain ⟨name, hname⟩ := Option.isSome_iff_exists.mp
      (List.isSome_head?.mpr (hheads r hr hmanagement))
    have hnode : ManagementNode.ofRecord? r = some ⟨r.xname, name⟩ :=
      ofRecord?_eq_some.mpr ⟨hmanagement, rfl, hname⟩
    have hmem : (⟨r.xname, name⟩ : ManagementNode) ∈ ManagementNode.ofInventory inventory :=
      (sortBy_perm _ _).mem_iff.mpr (List.mem_filterMap.mpr ⟨r, hr, hnode⟩)
    have hlabel : (name, r.xname) ∈ s.labels := by
      rw [Subnet.labels_reserveNodesAs hnew hnames hreserve]
      exact List.mem_append_right _ (List.mem_map.mpr ⟨_, hmem, rfl⟩)
    obtain ⟨a, ha, hlabels⟩ := List.mem_map.mp hlabel
    rw [Prod.mk.injEq] at hlabels
    exact ⟨a, ha, hlabels.2, hlabels.1 ▸ hname⟩
  apart r hr _ r' hr' _ hne a ha hfor a' ha' hfor' haddress := by
    have heq : a = a' := List.inj_on_of_nodup_map hs.distinct ha ha' haddress
    exact hne (hfiled.eq_of_xname hr hr' (by rw [← hfor.1, ← hfor'.1, heq]))

/-- The networks in which management nodes get addresses. -/
def nodeNetworks : List String := ["NMN", "HMN", "MTL", "CAN"]

/-- The networks of management nodes have a subnet in which machines start, with addresses
for these nodes. -/
theorem exists_layout_of_nodeNetworks (options : Layout.Options) :
    ∀ name ∈ nodeNetworks, ∃ l ∈ standard options, l.template.name = name ∧
      l.bootstrapBits ≠ none ∧ l.reservesNodes = true := by
  have hdefault : ∀ name ∈ nodeNetworks, ∃ l ∈ standard {}, l.template.name = name ∧
      l.bootstrapBits ≠ none ∧ l.reservesNodes = true := by decide
  intro name hname
  obtain ⟨k, hk, hkname, hkbits, hknodes⟩ := hdefault name hname
  obtain ⟨l, hl, heq⟩ := exists_fixedParts_eq options hk
  simp only [fixedParts, Prod.mk.injEq] at heq
  obtain ⟨htemplate, hbits, _, hnodes⟩ := heq
  exact ⟨l, hl, htemplate ▸ hkname, hbits ▸ hkbits, hnodes ▸ hknodes⟩

/-- The names of the standard layouts are different. -/
theorem nodup_names_standard (options : Layout.Options) :
    ((standard options).map (·.template.name)).Nodup := by
  have hnames : (standardNetworks.map Network.name).Nodup := by decide
  rw [← templates_standard options, List.map_map] at hnames
  exact hnames

/-- The fixed addresses of the standard layouts have names of their own. -/
theorem pin_ne_managementName {options : Layout.Options} {l : Layout}
    (hl : l ∈ standard options) {p : Pin} (hp : p ∈ l.pins)
    (node : Cabling.ManagementRole × UInt32) : managementName node ≠ p.name := by
  have hdefault : ∀ k ∈ standard {}, ∀ p ∈ k.pins,
      p.name ∈ ["kubeapi-vip", "rgw-vip", "can-switch-1", "can-switch-2"] := by decide
  obtain ⟨k, hk, heq⟩ := exists_fixedParts_eq {} hl
  simp only [fixedParts, Prod.mk.injEq] at heq
  have hname := hdefault k hk p (heq.2.2.1 ▸ hp)
  have hletters := take_managementName node
  intro hsame
  rw [hsame] at hletters
  simp only [List.mem_cons, List.not_mem_nil, or_false] at hname
  rcases hname with h | h | h | h <;> simp [h] at hletters

/-- A plan holds the hardware of its site and its cabinets, and the networks for that
hardware. -/
theorem generate_spec {site : Site} {options : Options} {plan : Plan}
    (hok : generate site options = .ok plan) :
    ∃ hardware cabinets, hardwareOf site options = .ok hardware ∧
      networksOf site options hardware = .ok plan.networks ∧
      cabinetHardware site.cabinets plan.networks = .ok cabinets ∧
      hardware.addAll cabinets = (.ok (), plan.hardware) := by
  obtain ⟨hardware, hhardware, hok⟩ := bind_eq_ok.mp hok
  obtain ⟨networks, hnetworks, hok⟩ := bind_eq_ok.mp hok
  obtain ⟨cabinets, hcabinets, hok⟩ := bind_eq_ok.mp hok
  split at hok
  · next filed hfiled =>
    obtain rfl := pure_eq_ok.mp hok
    have hparts := Prod.ext_iff.mp hfiled
    have hplan := hparts.2
    simp only [addHardware] at hplan hparts
    subst hplan
    exact ⟨hardware, cabinets, mapError_eq_ok.mp hhardware, mapError_eq_ok.mp hnetworks,
      mapError_eq_ok.mp hcabinets, Prod.ext hparts.1 rfl⟩
  · exact absurd hok throw_ne_ok

/-- The records of cabinets are not of management nodes. -/
theorem not_isManagement_cabinetHardware {groups : List Cabinet.Group}
    {networks : SortedMap Network} {cabinets : List Record}
    (hok : cabinetHardware groups networks = .ok cabinets) :
    ∀ r ∈ cabinets, ¬ r.IsManagement := by
  rintro r hr ⟨p, hnode, _⟩
  obtain ⟨_, _, hrecord⟩ := exists_of_forall₂ (mapM_eq_ok.mp hok) hr
  simp [Record.node?, (record_spec hrecord).2.2] at hnode

/-- The subnet in which machines start has addresses for the management nodes of an
inventory exactly if these have different host names. -/
theorem addressesNodes_bootstrap_iff {inputs : Synthesis.Inputs} {first : UInt64}
    {rows : List Cabling.Row} {hardware : Inventory} {options : Layout.Options} {l : Layout}
    {n : Network} {cabinets : List Cabinet.Group} {switches : List Switch}
    (hhardware : (inventory inputs (.startingAt first) rows).1 = .ok hardware)
    (hl : l ∈ standard options) (hbits : l.bootstrapBits ≠ none) (hnodes : l.reservesNodes = true)
    (hbuild : l.build ⟨cabinets, switches, ManagementNode.ofInventory hardware⟩ = .ok n) :
    ∃ s, n.lookup "bootstrap_dhcp" = .ok s ∧ (s.AddressesNodes hardware.values ↔
      (managementNodes inputs.applicationNodes rows).Nodup) := by
  obtain ⟨hfiled, _⟩ := inventory_spec hhardware
  obtain ⟨pinned, named, s, hpinned, haddress, hwell, hlookup, hsame⟩ :=
    lookup_bootstrap (wellFormed_standard hl) hbits hbuild
  have hnamed : s.AddressesNodes hardware.values ↔ named.AddressesNodes hardware.values := by
    constructor
    · rintro ⟨haddressed, hapart⟩
      rw [hsame] at haddressed hapart
      exact ⟨haddressed, hapart⟩
    · rintro ⟨haddressed, hapart⟩
      rw [← hsame] at haddressed hapart
      exact ⟨haddressed, hapart⟩
  rw [addressNodes, if_pos hnodes] at haddress
  refine ⟨s, hlookup, ?_⟩
  rw [hnamed, ← nodup_hostNames_ofInventory hhardware]
  refine ⟨nodup_hostNames_of_addressesNodes hfiled hwell.names, fun hnames => ?_⟩
  refine addressesNodes_of_nodup_hostNames hfiled hwell ?_ ?_ hnames
    (complete_eq_ok.mp haddress)
  · rintro r hr ⟨p, hnode, hrole⟩
    exact hostNames_ne_nil hhardware hr hnode hrole
  · intro node hnode hmem
    -- The names of fixed addresses are no host names.
    have hhost : node.hostName ∈
        (managementNodes inputs.applicationNodes rows).map managementName :=
      (perm_hostNames_ofInventory hhardware).mem_iff.mp (List.mem_map_of_mem hnode)
    obtain ⟨who, _, hwho⟩ := List.mem_map.mp hhost
    obtain ⟨p, hp, hpname⟩ := List.mem_map.mp (hpinned _ hmem)
    exact pin_ne_managementName hl hp who (hwho.trans hpname.symm)

/-- In each network of management nodes the plan has addresses for all of them in the subnet
in which machines start. -/
def AddressesManagementNodes (plan : Plan) : Prop :=
  ∀ name ∈ nodeNetworks, ∃ n s, plan.networks.get? name = some n ∧
    n.lookup "bootstrap_dhcp" = .ok s ∧ s.AddressesNodes plan.hardware.values

/-- Each network of management nodes was built by its layout, and whether it has addresses
for them is decided by the rows of the site. -/
theorem exists_bootstrap {site : Site} {options : Options} {plan : Plan}
    (hok : generate site options = .ok plan) :
    ∀ name ∈ nodeNetworks, ∃ n s, plan.networks.get? name = some n ∧
      n.lookup "bootstrap_dhcp" = .ok s ∧ (s.AddressesNodes plan.hardware.values ↔
        (managementNodes site.applicationNodes site.rows).Nodup) := by
  obtain ⟨hardware, cabinets, hhardware, hnetworks, hcabinets, hadd⟩ := generate_spec hok
  obtain ⟨hfiled, _⟩ := inventory_spec hhardware
  have hwellFormed : ∀ l ∈ standard options.layout, l.WellFormed := fun _ => wellFormed_standard
  have hbuilt := get?_buildInto hwellFormed (nodup_names_standard options.layout) hnetworks
  -- The records of cabinets are filed later and are not of nodes.
  have hplan : ∀ r : Record, r.IsManagement →
      (r ∈ plan.hardware.values ↔ r ∈ hardware.values) := by
    intro r hmanagement
    rw [(Inventory.addAll_spec hfiled hadd).2.mem_iff, List.mem_append]
    exact or_iff_left fun hr => not_isManagement_cabinetHardware hcabinets r hr hmanagement
  intro name hmem
  obtain ⟨l, hl, hname, hbits, hnodes⟩ := exists_layout_of_nodeNetworks options.layout name hmem
  obtain ⟨n, hget, hbuild⟩ := hbuilt l hl
  obtain ⟨s, hlookup, hiff⟩ := addressesNodes_bootstrap_iff hhardware hl hbits hnodes hbuild
  refine ⟨n, s, hname ▸ hget, hlookup, Iff.trans ⟨?_, ?_⟩ hiff⟩
  · exact fun hs => hs.congr fun r hr => (hplan r hr).symm
  · exact fun hs => hs.congr hplan

/-- Nodes of different roles or numbers get addresses of their own. -/
theorem addressesManagementNodes_of_nodup {site : Site} {options : Options} {plan : Plan}
    (hok : generate site options = .ok plan)
    (hdifferent : (managementNodes site.applicationNodes site.rows).Nodup) :
    plan.AddressesManagementNodes := by
  intro name hname
  obtain ⟨n, s, hget, hlookup, hiff⟩ := exists_bootstrap hok name hname
  exact ⟨n, s, hget, hlookup, hiff.mpr hdifferent⟩

/-- Nodes that have addresses of their own differ in role or number. -/
theorem nodup_of_addressesManagementNodes {site : Site} {options : Options} {plan : Plan}
    (hok : generate site options = .ok plan) (hplan : plan.AddressesManagementNodes) :
    (managementNodes site.applicationNodes site.rows).Nodup := by
  obtain ⟨n, s, hget, hlookup, hiff⟩ := exists_bootstrap hok "NMN" (by decide)
  obtain ⟨n', s', hget', hlookup', haddresses⟩ := hplan "NMN" (by decide)
  rw [hget, Option.some.injEq] at hget'
  subst hget'
  rw [hlookup, Except.ok.injEq] at hlookup'
  subst hlookup'
  exact hiff.mp haddresses

/-- Every management node gets its own address: a plan has an address for every management
node in each of their networks, and different ones for different nodes, exactly if no two
rows that are recorded as management nodes have the same role and number. -/
theorem addressesManagementNodes_iff {site : Site} {options : Options} {plan : Plan}
    (hok : generate site options = .ok plan) :
    plan.AddressesManagementNodes ↔
      (managementNodes site.applicationNodes site.rows).Nodup :=
  ⟨nodup_of_addressesManagementNodes hok, addressesManagementNodes_of_nodup hok⟩

/-- Two management nodes in a rack, under these names in the cabling sheet. -/
def pairSite (first second : String) : Site where
  rows := [{ source := first, sourceRack := "x3000", sourceLocation := "u01" },
    { source := second, sourceRack := "x3000", sourceLocation := "u02" }]

/-- A master and a worker of one number get addresses of their own. -/
theorem addressesManagementNodes_pairSite :
    ∃ plan, generate (pairSite "mn01" "wn01") {} = .ok plan ∧
      plan.AddressesManagementNodes := by
  obtain ⟨plan, hok⟩ : ∃ plan, generate (pairSite "mn01" "wn01") {} = .ok plan :=
    exists_of_isOk (by decide +kernel)
  exact ⟨plan, hok, (addressesManagementNodes_iff hok).mpr (by decide +kernel)⟩

/-- Not every management node of a plan has an address: of two nodes whose names spell one
number, the second is passed over. -/
theorem not_forall_addressesManagementNodes :
    ¬ ∀ (site : Site) (options : Options) (plan : Plan),
      generate site options = .ok plan → plan.AddressesManagementNodes := by
  intro hall
  obtain ⟨plan, hok⟩ : ∃ plan, generate (pairSite "mn1" "mn01") {} = .ok plan :=
    exists_of_isOk (by decide +kernel)
  have hsame : ¬ (managementNodes (pairSite "mn1" "mn01").applicationNodes
      (pairSite "mn1" "mn01").rows).Nodup := by decide +kernel
  apply hsame
  exact nodup_of_addressesManagementNodes hok (hall _ _ plan hok)

end Plan

end SitePlan
