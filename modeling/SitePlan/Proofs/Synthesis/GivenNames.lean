import SitePlan.Proofs.Synthesis.NodeIdentity
import SitePlan.Proofs.Synthesis.SelfConsistency

/-!
# Host names that a site gives

A site gives host names to nodes in racks by writing down their locations, while the rows of the
cabling sheet spell out where the nodes stand. Both meet in the canonical spelling of a location,
so each node has every host name that is given to it. What else it is called is the name that is
generated from its row, which the site can also have given to another node.
-/

namespace SitePlan

open ApplicationNode Hardware

/-- The record of a node carries the host names that the site gives to it, where this name is
generated for the node, if any. -/
structure Hardware.Record.CarriesGivenNames (site : Config) (generated : Option String)
    (r : Record) : Prop where
  /-- It stands at the location of a node, which can be spelled in any case, with white space
  around it and with padded ordinals. -/
  location : ∃ place : Xname.Component, place.kind = .node ∧ r.xname = place.toXname ∧
    ∀ written, Xname.Component.parse .node (Cabling.nameKey written) = .ok place →
      Xname.normalize written = r.xname
  /-- Every host name that the site gives to its location is listed. -/
  carried : ∀ name, site.GivesName r.xname name → name ∈ r.hostNames
  /-- The generated name comes first, if there is one, and behind it there are only host names that
  the site gives to its location. -/
  behind : ∃ given, r.hostNames = generated.toList ++ given ∧
    ∀ name ∈ given, site.GivesName r.xname name
  /-- No host name is listed twice. -/
  nodup : r.hostNames.Nodup

/-- The record carries no host name that the site gives to another location. -/
def Hardware.Record.CarriesNoOtherNames (site : Config) (r : Record) : Prop :=
  ∀ other name, site.GivesName other name → other ≠ r.xname → name ∉ r.hostNames

/-- Of the host names that the site gives to other locations the record carries none but the one
that is generated for it. -/
def Hardware.Record.CarriesOtherNamesAsGenerated (site : Config) (generated : Option String)
    (r : Record) : Prop :=
  ∀ other name, site.GivesName other name → other ≠ r.xname →
    (name ∈ r.hostNames ↔ generated = some name)

namespace Synthesis

open Cabling Outcome Xname

/-! ### Locations -/

/-- The spelling of a location is canonical in whatever case it is read. -/
theorem normalize_nameKey (written : String) :
    normalize (nameKey written) = normalize written := by
  have htrimmed : Text.Trimmed (Text.lower (Text.trim written.toList)) :=
    (Text.trimmed_trim _).lower
  simp only [Xname.normalize, canonical, nameKey, Text.lowerText, Text.trimText,
    String.toList_ofList]
  rw [htrimmed.trim_eq_self, Text.lower_lower]

/-- The record of a node in a row stands at the location of a node. -/
theorem MakesPiece.exists_place {ctx : RackContext} {nid : UInt64} {row : Row}
    {piece : List Record} (hpiece : MakesPiece ctx nid row piece) {r : Record} (hr : r ∈ piece)
    (hnode : r.node?.isSome = true) :
    ∃ place : Component, place.kind = .node ∧ r.xname = place.toXname := by
  cases hpiece with
  | skipped => cases hr
  | recorded _ _ _ made _ connected =>
    rcases List.mem_cons.mp hr with rfl | hconnector
    · cases made with
      | router _ made => simp [Record.node?, (record_spec made).2.2] at hnode
      | pdu made => simp [Record.node?, (record_spec made).2.2] at hnode
      | enclosure _ _ made => simp [Record.node?, (createAs_spec made).2.2] at hnode
      | node _ _ _ stands made =>
        subst stands
        exact ⟨_, rfl, (record_spec made).1⟩
    · rw [node?_connectorRecord (connected r (Option.mem_toList.mp hconnector))] at hnode
      cases hnode

/-! ### Host names -/

/-- Host names that are added come after those that are there, each once. -/
theorem addNames_spec {names : List String} (more : List String) (hnames : names.Nodup) :
    ∃ added, addNames names more = names ++ added ∧ (names ++ added).Nodup ∧
      ∀ name ∈ added, name ∈ more := by
  induction more generalizing names with
  | nil => exact ⟨[], by simp [addNames], by simpa using hnames, by simp⟩
  | cons name rest ih =>
    unfold addNames
    by_cases hold : name ∈ names
    · obtain ⟨added, hadded, hnodup, hmore⟩ := ih hnames
      refine ⟨added, ?_, hnodup, fun a ha => List.mem_cons_of_mem name (hmore a ha)⟩
      rw [if_pos (List.contains_iff_mem.mpr hold), hadded]
    · have hlonger : (names ++ [name]).Nodup := by
        rw [List.nodup_append]
        refine ⟨hnames, List.nodup_singleton name, ?_⟩
        rintro a ha b hb rfl
        exact hold (List.mem_singleton.mp hb ▸ ha)
      obtain ⟨added, hadded, hnodup, hmore⟩ := ih hlonger
      rw [List.append_assoc, List.singleton_append] at hadded hnodup
      refine ⟨name :: added, ?_, hnodup, List.forall_mem_cons.mpr ⟨List.mem_cons_self, ?_⟩⟩
      · rw [if_neg (by simpa using hold), hadded]
      · exact fun a ha => List.mem_cons_of_mem name (hmore a ha)

/-- A node in a rack has the name that its row gives, and behind it those that the site gives to
its location, each once. -/
theorem RecordsNode.exists_hostNames {config : Config} {p : NodeProperties} {r : Record}
    {generated : Option String} (hr : RecordsNode config p r)
    (hp : p.aliases = generated.toList) :
    ∃ given, r.hostNames = generated.toList ++ given ∧ r.hostNames.Nodup ∧
      ∀ name ∈ given, name ∈ config.aliasesFor r.xname := by
  have hnodup : generated.toList.Nodup := by cases generated <;> simp
  obtain ⟨given, hgiven, hall, hmore⟩ := addNames_spec (config.aliasesFor r.xname) hnodup
  have hnames : r.hostNames = generated.toList ++ given := by
    rw [Record.hostNames, hr.2, Option.map_some, Option.getD_some, hp, hgiven]
  exact ⟨given, hnames, hnames ▸ hall, hmore⟩

/-- The row is that of a node, and the record carries the host names that the site gives to it
behind the one that is generated from the row, and of those that the site gives to other locations
none but this one. -/
def NamedByRow (site config : Config) (row : Row) (r : Record) : Prop :=
  ∃ kind, row.device config = .ok (.node kind) ∧
    r.CarriesGivenNames site kind.generatedName? ∧
    r.CarriesOtherNamesAsGenerated site kind.generatedName?

variable {inputs : Inputs} {nids : Nids} {rows : List Row} {records : List Record}

/-- The record of a node that is made of a row is named by the row. -/
theorem MakesPiece.namedByRow {site : Config} {ctx : RackContext} {nid : UInt64} {row : Row}
    {piece : List Record} (hnormal : site.normalize = .ok ctx.applicationNodes)
    (hvalid : ctx.applicationNodes.validate = .ok ()) (hpiece : MakesPiece ctx nid row piece)
    {r : Record} (hr : r ∈ piece) (hnode : r.node?.isSome = true) :
    NamedByRow site ctx.applicationNodes row r := by
  obtain ⟨kind, p, hdevice, hproperties, hrecords⟩ := hpiece.exists_recordsNode hr hnode
  have hgives : ∀ xname name, name ∈ ctx.applicationNodes.aliasesFor xname ↔
      site.GivesName xname name := fun _ _ => Config.mem_aliasesFor_iff hnormal
  have hnames : ∀ name, name ∈ r.hostNames ↔
      kind.generatedName? = some name ∨ site.GivesName r.xname name := fun name => by
    rw [hrecords.mem_hostNames (namedOnce_of_nodeProperties? hproperties), hgives,
      hpiece.firstName? hr hnode hdevice]
  refine ⟨kind, hdevice, ?_, fun other name hother hne => ?_⟩
  · obtain ⟨place, hkind, hxname⟩ := hpiece.exists_place hr hnode
    obtain ⟨given, hgiven, hnodup, hmore⟩ :=
      hrecords.exists_hostNames (aliases_of_nodeProperties? hproperties)
    exact {
      location := by
        refine ⟨place, hkind, hxname, fun written hwritten => ?_⟩
        rw [← normalize_nameKey, ← Component.toXname_of_parse hwritten, hxname]
      carried := fun name hname => (hnames name).mpr (.inr hname)
      behind := ⟨given, hgiven, fun name hname => (hgives _ _).mp (hmore name hname)⟩
      nodup := hnodup }
  · rw [hnames]
    refine or_iff_left fun hown => ?_
    exact Config.aliasesFor_disjoint hvalid hne ((hgives _ _).mpr hother) ((hgives _ _).mpr hown)

/-- The host names that a site gives reach their nodes. If the site's configuration can be
normalized and passes its check, then the records in racks are those of each row, and every node
among those of a row has the host names that the site gives to its location in any spelling, behind
the name that is generated from the row and each once, and a host name that the site gives to
another location only where that is the generated name. -/
theorem givenNames_reach_nodes {site : Config}
    (hnormal : site.normalize = .ok inputs.applicationNodes)
    (hvalid : inputs.applicationNodes.validate = .ok ())
    (hok : (rackHardware inputs nids rows).1 = .ok records) :
    ∃ pieces, rackPieces inputs nids rows = .ok pieces ∧ records = pieces.flatten ∧
      List.Forall₂ (fun row piece => ∀ r ∈ piece, r.node?.isSome = true →
        NamedByRow site inputs.applicationNodes row r) rows pieces := by
  rw [rackHardware_eq_flatten] at hok
  obtain ⟨pieces, hpieces, rfl⟩ := map_eq_ok.mp hok
  obtain ⟨ctx, hconfig, _, _, hmade⟩ := rackPieces_spec hpieces
  rw [← hconfig] at hnormal hvalid ⊢
  refine ⟨pieces, hpieces, rfl, hmade.imp fun row piece hpiece r hr hnode => ?_⟩
  obtain ⟨nid, hpiece⟩ := hpiece
  exact hpiece.namedByRow hnormal hvalid hr hnode

/-- A site that writes a location in capitals and with padding, and that gives a name to a node
which is generated for another one. -/
def borrowedNames : Config where
  aliases := .ofList [("X3000C0S03B0N0", ["login01", "login01"]), ("x3000c0s2b0n0", ["nid000001"])]

/-- The site with its locations in canonical spelling. -/
def borrowedSite : Inputs where
  applicationNodes := {
    aliases := .ofList [("x3000c0s2b0n0", ["nid000001"]), ("x3000c0s3b0n0", ["login01", "login01"])]
  }

/-- The cabling sheet of the site. -/
def borrowedSheet : List Row := [
  { source := "nid000001", sourceRack := "x3000", sourceLocation := "u01" },
  { source := "nid000002", sourceRack := "x3000", sourceLocation := "u02" },
  { source := "uan01", sourceRack := "X3000", sourceLocation := "u3" }]

/-- Each node of the site has the host names that are given to it. -/
theorem givenNames_reach_nodes_borrowedSite :
    ∃ pieces, rackPieces borrowedSite {} borrowedSheet = .ok pieces ∧
      pieces.map (List.map Record.hostNames) =
        [[["nid000001"]], [["nid000002", "nid000001"]], [["login01"]]] ∧
      List.Forall₂ (fun row piece => ∀ r ∈ piece, r.node?.isSome = true →
        NamedByRow borrowedNames borrowedSite.applicationNodes row r) borrowedSheet pieces := by
  obtain ⟨records, hok⟩ : ∃ records, (rackHardware borrowedSite {} borrowedSheet).1 = .ok records :=
    exists_of_isOk (by decide +kernel)
  have hnormal : borrowedNames.normalize = .ok borrowedSite.applicationNodes := by decide +kernel
  have hvalid : borrowedSite.applicationNodes.validate = .ok () := by decide +kernel
  obtain ⟨pieces, hpieces, _, hnamed⟩ := givenNames_reach_nodes hnormal hvalid hok
  obtain ⟨_, hmade, hnames⟩ : ∃ made, rackPieces borrowedSite {} borrowedSheet = .ok made ∧
      decide (made.map (List.map Record.hostNames) =
        [[["nid000001"]], [["nid000002", "nid000001"]], [["login01"]]]) = true :=
    exists_of_toOption_any (by decide +kernel)
  obtain rfl := Except.ok.inj (hpieces.symm.trans hmade)
  exact ⟨pieces, hpieces, of_decide_eq_true hnames, hnamed⟩

/-- Nodes of checked sites do not always carry no host name that is given to another node: it
may be generated for them. -/
theorem not_forall_givenNames_apart :
    ¬ ∀ (site : Config) (inputs : Inputs) (nids : Nids) (rows : List Row) (records : List Record),
      site.normalize = .ok inputs.applicationNodes →
      inputs.applicationNodes.validate = .ok () →
      (rackHardware inputs nids rows).1 = .ok records →
      ∀ r ∈ records, r.node?.isSome = true →
        (∃ generated, r.CarriesGivenNames site generated) ∧ r.CarriesNoOtherNames site := by
  intro hall
  obtain ⟨records, hok, hborrowed⟩ : ∃ records,
      (rackHardware borrowedSite {} borrowedSheet).1 = .ok records ∧
        decide (∃ r ∈ records, r.node?.isSome = true ∧ r.xname = "x3000c0s1b0n0" ∧
          "nid000001" ∈ r.hostNames) = true :=
    exists_of_toOption_any (by decide +kernel)
  obtain ⟨r, hr, hnode, hxname, hname⟩ := of_decide_eq_true hborrowed
  obtain ⟨_, hothers⟩ := hall borrowedNames borrowedSite {} borrowedSheet records
    (by decide +kernel) (by decide +kernel) hok r hr hnode
  have hgiven : borrowedNames.GivesName "x3000c0s2b0n0" "nid000001" :=
    ⟨"x3000c0s2b0n0", ["nid000001"], by decide +kernel, by decide +kernel, by decide⟩
  exact hothers _ _ hgiven (by rw [hxname]; decide) hname

end Synthesis

end SitePlan
