import SitePlan.Proofs.Synthesis.HostNames
import SitePlan.Proofs.Synthesis.RowPieces

/-!
# Telling nodes apart

An inventory keeps locations apart and nothing else. Whether its nodes also differ in their
numbers and host names depends on the numbers in the cabling sheet, on how many nodes are
counted from where, and on the host names that the site gives.
-/

namespace SitePlan.Synthesis

open Cabling Hardware Outcome

/-- No two of the records have anything in common of what is listed for them. -/
def ShareNothing {β : Type} (listed : Record → List β) (records : List Record) : Prop :=
  ∀ a ∈ records, ∀ b ∈ records, a ≠ b → ∀ x ∈ listed a, x ∉ listed b

/-- The host name is generated for the node that a record is of: in a rack from what the row of the
record says of the node, and else from the number of the node. -/
inductive IsGeneratedFor (inputs : Inputs) (first : UInt64) (rows : List Row) (r : Record) :
    String → Prop
  | ofRow {pieces : List (List Record)} {row : Row} {piece : List Record} {kind : NodeKind}
      {name : String} (made : rackPieces inputs (.startingAt first) rows = .ok pieces)
      (own : (row, piece) ∈ rows.zip pieces) (recorded : r ∈ piece)
      (isNode : r.node?.isSome = true)
      (reads : row.device inputs.applicationNodes = .ok (.node kind))
      (generated : kind.generatedName? = some name) : IsGeneratedFor inputs first rows r name
  | ofNumber {nid : UInt64} (outside : r.hardwareClass ≠ .river) (numbered : r.nid? = some nid) :
      IsGeneratedFor inputs first rows r (nidName nid)

/-- No host name that the site gives to a node in a rack is generated for another node. -/
def GivenNamesApart (inputs : Inputs) (first : UInt64) (rows : List Row) (records : List Record) :
    Prop :=
  ∀ a ∈ records, a.node?.isSome = true → a.hardwareClass = .river →
    ∀ name ∈ inputs.applicationNodes.aliasesFor a.xname, ∀ b ∈ records, a ≠ b →
      ¬ IsGeneratedFor inputs first rows b name

/-- No host name that the site gives to a node in a rack is the first one of another node. -/
def FirstNamesApart (config : ApplicationNode.Config) (records : List Record) : Prop :=
  ∀ a ∈ records, a.node?.isSome = true → a.hardwareClass = .river →
    ∀ name ∈ config.aliasesFor a.xname, ∀ b ∈ records, a ≠ b → b.firstName? ≠ some name

/-- Records share nothing of one thing each exactly if the things are different. -/
theorem shareNothing_toList_iff {β : Type} {f : Record → Option β} {records : List Record}
    (hrecords : records.Nodup) :
    ShareNothing (fun r => (f r).toList) records ↔ (records.filterMap f).Nodup := by
  simp only [ShareNothing, Option.mem_toList]
  rw [List.Nodup, List.pairwise_filterMap]
  constructor
  · intro hapart
    refine hrecords.pairwise_of_forall_ne fun a ha b hb hne x hx y hy heq => ?_
    exact hapart a ha b hb hne x hx (heq ▸ hy)
  · intro hpairwise a ha b hb hne x hx hx'
    have hforward : records.Pairwise fun a b =>
        a ≠ b → ∀ x, f a = some x → ∀ y, f b = some y → x ≠ y := by
      refine hpairwise.imp ?_
      exact fun hab _ => hab
    have hbackward : records.Pairwise fun a b =>
        b ≠ a → ∀ x, f b = some x → ∀ y, f a = some y → x ≠ y := by
      refine hpairwise.imp ?_
      exact fun hab _ x hx y hy heq => hab y hy x hx heq.symm
    exact hforward.forall_of_forall_of_flip (fun _ _ hself => absurd rfl hself) hbackward ha hb
      hne x hx x hx' rfl

/-! ### Generated names -/

/-- The record of a node that is made of a row says what the row's device says of the node. -/
theorem MakesPiece.exists_recordsNode {ctx : RackContext} {nid : UInt64} {row : Row}
    {piece : List Record} (hpiece : MakesPiece ctx nid row piece) {r : Record} (hr : r ∈ piece)
    (hnode : r.node?.isSome = true) :
    ∃ kind p, row.device ctx.applicationNodes = .ok (.node kind) ∧
      nodeProperties? nid kind = some p ∧ RecordsNode ctx.applicationNodes p r := by
  obtain ⟨device, hdevice, hnodes⟩ := hpiece.recordsNode
  obtain ⟨p, hp, hrecords⟩ := exists_of_forall₂ hnodes (List.mem_filter.mpr ⟨hr, hnode⟩)
  obtain ⟨kind, hkind, hproperties⟩ := Option.bind_eq_some_iff.mp (Option.mem_toList.mp hp)
  refine ⟨kind, p, ?_, hproperties, hrecords⟩
  cases device with
  | node own =>
    rw [RackContext.kind?] at hkind
    split at hkind <;> cases hkind
    exact hdevice
  | _ => cases hkind

/-- A node in a rack has the name first that is generated from its row. -/
theorem MakesPiece.firstName? {ctx : RackContext} {nid : UInt64} {row : Row} {piece : List Record}
    (hpiece : MakesPiece ctx nid row piece) {r : Record} (hr : r ∈ piece)
    (hnode : r.node?.isSome = true) {kind : NodeKind}
    (hreads : row.device ctx.applicationNodes = .ok (.node kind)) :
    r.firstName? = kind.generatedName? := by
  obtain ⟨_, p, hdevice, hproperties, hrecords⟩ := hpiece.exists_recordsNode hr hnode
  cases hreads.symm.trans hdevice
  rw [hrecords.firstName? (namedOnce_of_nodeProperties? hproperties),
    aliases_of_nodeProperties? hproperties, Option.head?_toList]

/-- A record in a rack is that of some row. -/
theorem exists_row_of_mem {inputs : Inputs} {nids : Nids} {rows : List Row}
    {pieces : List (List Record)} (hpieces : rackPieces inputs nids rows = .ok pieces) {r : Record}
    (hr : r ∈ pieces.flatten) : ∃ row piece, (row, piece) ∈ rows.zip pieces ∧ r ∈ piece := by
  obtain ⟨_, _, _, _, hmade⟩ := rackPieces_spec hpieces
  obtain ⟨piece, hpiece, hr⟩ := List.mem_flatten.mp hr
  have hpaired : piece ∈ (rows.zip pieces).map Prod.snd := by
    rwa [List.map_snd_zip (Nat.le_of_eq hmade.length_eq.symm)]
  obtain ⟨⟨row, _⟩, hpair, rfl⟩ := List.mem_map.mp hpaired
  exact ⟨row, _, hpair, hr⟩

variable {inputs : Inputs} {first : UInt64} {rows : List Row} {filed : Inventory}

/-- The nodes of an inventory stand in racks, or they are counted. -/
theorem node_cases (hok : (inventory inputs (.startingAt first) rows).1 = .ok filed) {r : Record}
    (hr : r ∈ filed.values) (hnode : r.node?.isSome = true) :
    (∃ pieces, rackPieces inputs (.startingAt first) rows = .ok pieces ∧ r ∈ pieces.flatten) ∨
      ∃ nid, RecordsCounted nid r := by
  obtain ⟨_, switches, racks, cabinets, later, hswitches, hracks, hcabinets, hperm⟩ :=
    inventory_spec hok
  rw [hperm.mem_iff, List.mem_append, List.mem_append] at hr
  rcases hr with (hswitch | hrack) | hcabinet
  · have hmem : r ∈ nodesOf switches := List.mem_filter.mpr ⟨hswitch, hnode⟩
    rw [nodesOf_switchHardware hswitches] at hmem
    cases hmem
  · have hrecords := congrArg Prod.fst hracks
    rw [rackHardware_eq_flatten] at hrecords
    obtain ⟨pieces, hpieces, rfl⟩ := map_eq_ok.mp hrecords
    exact .inl ⟨pieces, hpieces, hrack⟩
  · obtain ⟨nid, _, hrecords⟩ := exists_of_forall₂ (liquidCooledHardware_spec hcabinets)
      (List.mem_filter.mpr ⟨hcabinet, hnode⟩)
    exact .inr ⟨nid, hrecords⟩

/-- The name that is generated for a node of an inventory is its first one. -/
theorem isGeneratedFor_iff (hok : (inventory inputs (.startingAt first) rows).1 = .ok filed)
    {r : Record} (hr : r ∈ filed.values) {name : String} :
    IsGeneratedFor inputs first rows r name ↔ r.firstName? = some name := by
  constructor
  · rintro (⟨hpieces, hown, hrecorded, hnode, hreads, hgenerated⟩ | ⟨houtside, hnumbered⟩)
    · obtain ⟨ctx, hconfig, _, _, hmade⟩ := rackPieces_spec hpieces
      obtain ⟨_, hmakes⟩ := (List.forall₂_iff_zip.mp hmade).2 hown
      rw [hmakes.firstName? hrecorded hnode (hconfig ▸ hreads), hgenerated]
    · have hnode : r.node?.isSome = true :=
        Option.isSome_of_isSome_bind (Option.isSome_of_mem hnumbered)
      rcases node_cases hok hr hnode with ⟨pieces, hpieces, hrack⟩ | ⟨own, hrecords⟩
      · obtain ⟨row, piece, hown, hrecorded⟩ := exists_row_of_mem hpieces hrack
        obtain ⟨_, _, _, _, hmade⟩ := rackPieces_spec hpieces
        obtain ⟨_, hmakes⟩ := (List.forall₂_iff_zip.mp hmade).2 hown
        obtain ⟨_, _, _, _, hrecords⟩ := hmakes.exists_recordsNode hrecorded hnode
        exact absurd hrecords.1 houtside
      · rw [Record.nid?, hrecords.2] at hnumbered
        obtain rfl := Option.some.inj hnumbered
        exact hrecords.firstName?
  · intro hfirst
    have hnode : r.node?.isSome = true :=
      Option.isSome_of_isSome_bind (Option.isSome_of_mem hfirst)
    rcases node_cases hok hr hnode with ⟨pieces, hpieces, hrack⟩ | ⟨nid, hrecords⟩
    · obtain ⟨row, piece, hown, hrecorded⟩ := exists_row_of_mem hpieces hrack
      obtain ⟨ctx, hconfig, _, _, hmade⟩ := rackPieces_spec hpieces
      obtain ⟨_, hmakes⟩ := (List.forall₂_iff_zip.mp hmade).2 hown
      obtain ⟨kind, _, hreads, _⟩ := hmakes.exists_recordsNode hrecorded hnode
      exact .ofRow hpieces hown hrecorded hnode (hconfig ▸ hreads)
        ((hmakes.firstName? hrecorded hnode hreads).symm.trans hfirst)
    · obtain rfl := Option.some.inj (hrecords.firstName?.symm.trans hfirst)
      exact .ofNumber hrecords.1 (by rw [Record.nid?, hrecords.2]; rfl)

/-- Given names are kept apart from generated ones exactly if none is the first name of another
node. -/
theorem givenNamesApart_iff (hok : (inventory inputs (.startingAt first) rows).1 = .ok filed) :
    GivenNamesApart inputs first rows filed.values ↔
      FirstNamesApart inputs.applicationNodes filed.values := by
  unfold GivenNamesApart FirstNamesApart
  refine forall₂_congr fun a _ => forall₂_congr fun _ _ => forall₂_congr fun name _ =>
    forall₂_congr fun b hb => ?_
  rw [isGeneratedFor_iff hok hb]

/-- The host names of an inventory's node are its first one and, in a rack, those that the site
gives to its location. -/
theorem mem_hostNames_inventory
    (hok : (inventory inputs (.startingAt first) rows).1 = .ok filed) {r : Record}
    (hr : r ∈ filed.values) {name : String} :
    name ∈ r.hostNames ↔ r.firstName? = some name ∨
      r.node?.isSome = true ∧ r.hardwareClass = .river ∧
        name ∈ inputs.applicationNodes.aliasesFor r.xname := by
  obtain ⟨racks, cabinets, hracks, hcabinets, hperm⟩ := perm_nodesOf_inventory hok
  by_cases hnode : r.node?.isSome = true
  · have hmem : r ∈ racks ++ cabinets := hperm.mem_iff.mp (List.mem_filter.mpr ⟨hr, hnode⟩)
    rcases List.mem_append.mp hmem with hrack | hcabinet
    · obtain ⟨p, hp, hrecords⟩ := exists_of_forall₂ hracks hrack
      rw [hrecords.mem_hostNames (namedOnce_numberedNodes hp)]
      simp [hnode, hrecords.1]
    · obtain ⟨nid, _, hrecords⟩ := exists_of_forall₂ hcabinets hcabinet
      rw [hrecords.firstName?]
      simp [Record.hostNames, hrecords.1, hrecords.2, computeNode, eq_comm]
  · rw [Option.isSome_iff_ne_none, not_not] at hnode
    simp [Record.hostNames, Record.firstName?, hnode]

/-- Nodes of a checked site share no host name exactly if their first names are different and no
given name is the first one of another node. -/
theorem shareNothing_hostNames_iff (hvalid : inputs.applicationNodes.validate = .ok ())
    (hok : (inventory inputs (.startingAt first) rows).1 = .ok filed) :
    ShareNothing Record.hostNames filed.values ↔
      (filed.values.filterMap Record.firstName?).Nodup ∧
        FirstNamesApart inputs.applicationNodes filed.values := by
  obtain ⟨hfiled, _⟩ := inventory_spec hok
  have hnodup : filed.values.Nodup := hfiled.nodup_xnames.of_map _
  rw [← shareNothing_toList_iff hnodup]
  simp only [ShareNothing, FirstNamesApart, Option.mem_toList]
  constructor
  · intro hapart
    refine ⟨fun a ha b hb hne name hname hname' => ?_, ?_⟩
    · exact hapart a ha b hb hne name ((mem_hostNames_inventory hok ha).mpr (.inl hname))
        ((mem_hostNames_inventory hok hb).mpr (.inl hname'))
    · intro a ha hnode hriver name hname b hb hne hname'
      exact hapart a ha b hb hne name
        ((mem_hostNames_inventory hok ha).mpr (.inr ⟨hnode, hriver, hname⟩))
        ((mem_hostNames_inventory hok hb).mpr (.inl hname'))
  · rintro ⟨hgenerated, hgiven⟩ a ha b hb hne name hname hname'
    rcases (mem_hostNames_inventory hok ha).mp hname with hgen | ⟨hnode, hriver, hsite⟩
    · rcases (mem_hostNames_inventory hok hb).mp hname' with hgen' | ⟨hnode', hriver', hsite'⟩
      · exact hgenerated a ha b hb hne name hgen hgen'
      · exact hgiven b hb hnode' hriver' name hsite' a ha hne.symm hgen
    · rcases (mem_hostNames_inventory hok hb).mp hname' with hgen' | ⟨_, _, hsite'⟩
      · exact hgiven a ha hnode hriver name hsite b hb hne hgen'
      · -- The check of the site keeps the names of different locations apart.
        have hxname : a.xname ≠ b.xname := fun heq => hne (hfiled.eq_of_xname ha hb heq)
        exact ApplicationNode.Config.aliasesFor_disjoint hvalid hxname hsite hsite'

/-- Node identity: two nodes of an inventory never have one number exactly if the counted
numbers of management nodes, the numbers in the names of compute nodes and the counted
numbers of liquid-cooled cabinets do not meet. Two nodes of a checked site never share a
host name exactly if management nodes differ in role or number, compute nodes differ in
their number, and no host name that the site gives is generated for another node. -/
theorem nodes_apart_iff (hvalid : inputs.applicationNodes.validate = .ok ())
    (hok : (inventory inputs (.startingAt first) rows).1 = .ok filed) :
    (ShareNothing (fun r => r.nid?.toList) filed.values ↔
      (countedNids firstManagementNid (managementNodes inputs.applicationNodes rows).length ++
        computeNids inputs.applicationNodes rows ++
        liquidCooledNids first inputs.cabinets).Nodup) ∧
    (ShareNothing Record.hostNames filed.values ↔
      (managementNodes inputs.applicationNodes rows).Nodup ∧
      (computeNids inputs.applicationNodes rows ++
        liquidCooledNids first inputs.cabinets).Nodup ∧
      GivenNamesApart inputs first rows filed.values) := by
  obtain ⟨hfiled, _⟩ := inventory_spec hok
  have hnodup : filed.values.Nodup := hfiled.nodup_xnames.of_map _
  constructor
  · rw [shareNothing_toList_iff hnodup]
    exact (perm_nids_inventory hok).nodup_iff
  · rw [shareNothing_hostNames_iff hvalid hok, givenNamesApart_iff hok,
      (perm_firstNames_inventory hok).nodup_iff, nodup_generatedNames, and_assoc]

instance (config : ApplicationNode.Config) (records : List Record) :
    Decidable (FirstNamesApart config records) :=
  inferInstanceAs (Decidable (∀ a ∈ records, a.node?.isSome = true →
    a.hardwareClass = .river → ∀ name ∈ config.aliasesFor a.xname,
      ∀ b ∈ records, a ≠ b → b.firstName? ≠ some name))

/-- A small site: one rack, and an application node with a host name. -/
def smallSite : Inputs where
  cabinets := [{ kind := "river", details := [.ofId 3000] }]
  applicationNodes := { aliases := .ofList [("x3000c0s3b0n0", ["login01"])] }

/-- The cabling sheet of the small site. -/
def smallSheet : List Row := [
  { source := "mn01", sourceRack := "x3000", sourceLocation := "u01" },
  { source := "wn01", sourceRack := "x3000", sourceLocation := "u02" },
  { source := "uan01", sourceRack := "x3000", sourceLocation := "u03" },
  { source := "nid000001", sourceRack := "x3000", sourceLocation := "u04" }]

/-- The nodes of the small site have different numbers and host names. -/
theorem nodes_apart_smallSite :
    ∃ filed, (inventory smallSite (.startingAt 1000) smallSheet).1 = .ok filed ∧
      ShareNothing (fun r => r.nid?.toList) filed.values ∧
      ShareNothing Record.hostNames filed.values := by
  obtain ⟨filed, hok, hgiven⟩ : ∃ filed,
      (inventory smallSite (.startingAt 1000) smallSheet).1 = .ok filed ∧
        decide (FirstNamesApart smallSite.applicationNodes filed.values) = true :=
    exists_of_toOption_any (by decide +kernel)
  obtain ⟨hnids, hnames⟩ := nodes_apart_iff (by decide +kernel) hok
  refine ⟨filed, hok, hnids.mpr (by decide +kernel), hnames.mpr ⟨?_, ?_, ?_⟩⟩
  · decide +kernel
  · decide +kernel
  · exact (givenNamesApart_iff hok).mpr (of_decide_eq_true hgiven)

/-- Two spellings of one compute node in a cabling sheet. -/
def twinSheet : List Row := [
  { source := "nid000001", sourceRack := "x3000", sourceLocation := "u01" },
  { source := "cn1", sourceRack := "x3000", sourceLocation := "u02" }]

/-- Checked sites do not always tell nodes apart: two rows that spell one number give two
nodes of one number and one host name. -/
theorem not_forall_nodes_apart :
    ¬ ∀ (inputs : Inputs) (first : UInt64) (rows : List Row) (filed : Inventory),
      Cabinet.validate inputs.cabinets = .ok () →
      inputs.applicationNodes.normalize = .ok inputs.applicationNodes →
      inputs.applicationNodes.validate = .ok () →
      (inventory inputs (.startingAt first) rows).1 = .ok filed →
      ShareNothing (fun r => r.nid?.toList) filed.values ∧
        ShareNothing Record.hostNames filed.values := by
  intro hall
  obtain ⟨filed, hok, htwins⟩ : ∃ filed,
      (inventory smallSite (.startingAt 1000) twinSheet).1 = .ok filed ∧
        decide (filed.values.Nodup ∧ ¬ (filed.values.filterMap Record.nid?).Nodup) = true :=
    exists_of_toOption_any (by decide +kernel)
  obtain ⟨hnodup, hsame⟩ := of_decide_eq_true htwins
  obtain ⟨hnids, _⟩ := hall smallSite 1000 twinSheet filed (by decide +kernel)
    (by decide +kernel) (by decide +kernel) hok
  apply hsame
  exact (shareNothing_toList_iff hnodup).mp hnids

end SitePlan.Synthesis
