import SitePlan.Proofs.Document
import SitePlan.Proofs.Yaml.Layout
import SitePlan.Proofs.Yaml.Parts

/-!
# Written values read back

A value whose texts have one line each is read from its lines, wherever they stand: by itself,
behind the mark of an entry and behind a key. A file holds a value at its first column.
-/

namespace SitePlan.Yaml

open Document

/-! ### Values -/

/-- A value is read from its lines, by itself and behind a key. -/
structure ReadsBack (v : Json) : Prop where
  /-- There are lines. -/
  nonempty : lines v ≠ []
  /-- The value is read wherever it stands further in than what is around it. -/
  value : ∃ d added, Shows d v ∧ Adds added [.node d] ∧
    ∀ column indents, (∀ i ∈ indents.head?, i < column) →
      Yields column indents true (textAt column (lines v)) added
  /-- The value is read behind a key. -/
  field : ∃ d added parts, Shows d v ∧ Adds added parts ∧ Part.blockValue? parts = some d ∧
    (∀ part ∈ parts, part.isFieldMark = false) ∧
    ∃ text : Nat → List Char,
      (∀ name column,
        textAt column (fieldLines name v) = (scalarText name).toList ++ ':' :: text column) ∧
      ∀ column indents, FollowsKey column indents (text column) added

/-- A value that is written in one line is read from it. -/
theorem ReadsBack.leaf {v : Json} {d : Yaml} {added : List Token}
    (hlines : lines v = [leafText v])
    (hfield : ∀ name, fieldLines name v = [scalarText name ++ ": " ++ leafText v])
    (hshown : Shows d v) (hadds : Adds added [.node d])
    (hyields : ∀ column indents keyAllowed, (∀ i ∈ indents.head?, i < column) →
      Yields column indents keyAllowed ((leafText v).toList ++ ['\n']) added) : ReadsBack v where
  nonempty := by simp [hlines]
  value := by
    refine ⟨d, added, hshown, hadds, fun column indents hindents => ?_⟩
    rw [hlines]
    exact hyields column indents true hindents
  field := by
    have hfollows : ∀ column indents,
        FollowsKey column indents (' ' :: ((leafText v).toList ++ ['\n'])) added :=
      fun column indents => .inline fun inner hinner =>
        hyields inner (column :: indents) false (by simpa using hinner)
    refine ⟨d, added, [.node d], hshown, hadds, rfl, by simp [Part.isFieldMark],
      fun _ => ' ' :: ((leafText v).toList ++ ['\n']), fun name column => ?_, hfollows⟩
    simp [hfield, textAt]

/-! ### Arrays -/

/-- An item has lines. -/
theorem markItem_ne_nil {ls : List String} (hls : ls ≠ []) : markItem ls ≠ [] := by
  cases ls with
  | nil => exact absurd rfl hls
  | cons line more => simp [markItem]

/-- The lines of an array are those of its items. -/
theorem itemLines_ne_nil {vs : List Json} (hvs : ∀ v ∈ vs, ReadsBack v) (hnonempty : vs ≠ []) :
    itemLines vs ≠ [] := by
  cases vs with
  | nil => exact absurd rfl hnonempty
  | cons v vs =>
    simp [itemLines, markItem_ne_nil (hvs v List.mem_cons_self).nonempty]

/-- Items are read one after another. -/
theorem exists_items {vs : List Json} (hvs : ∀ v ∈ vs, ReadsBack v) (hnonempty : vs ≠ []) :
    ∃ ds added, List.Forall₂ Shows ds vs ∧ Adds added (entryParts ds) ∧
      ∀ column indents,
        Yields column (column :: indents) true (textAt column (itemLines vs)) added := by
  induction vs with
  | nil => exact absurd rfl hnonempty
  | cons v vs ih =>
    obtain ⟨hv, hvs⟩ := List.forall_mem_cons.mp hvs
    obtain ⟨d, added, hshown, hadds, hyields⟩ := hv.value
    have hitem : ∀ column indents,
        Yields column (column :: indents) true (textAt column (markItem (lines v)))
          (.entry :: added) := by
      intro column indents
      rw [textAt_markItem column hv.nonempty]
      exact (hyields (column + 2) (column :: indents) (by simp)).entry
    -- Only behind an item that is not the last does a line of the sequence follow.
    by_cases hlast : vs = []
    · subst hlast
      refine ⟨[d], .entry :: added, .cons hshown .nil, adds_entry.append hadds, ?_⟩
      simpa [itemLines] using hitem
    · obtain ⟨ds, more, hshownMore, haddsMore, hyieldsMore⟩ := ih hvs hlast
      refine ⟨d :: ds, .entry :: added ++ more, .cons hshown hshownMore,
        (adds_entry.append hadds).append haddsMore, fun column indents => ?_⟩
      rw [itemLines, textAt_append column (markItem_ne_nil hv.nonempty),
        ← spaces_textAt column (itemLines_ne_nil hvs hlast)]
      exact (hitem column indents).append (hyieldsMore column indents) ⟨column, rfl, Nat.le_refl _⟩

/-- Items that are read one after another are a block sequence, which the first mark opens. -/
theorem Yields.sequence {vs : List Json} {column : Nat} {indents : List Nat} {added : List Token}
    (hyields : Yields column (column :: indents) true (textAt column (itemLines vs)) added)
    (hvs : ∀ v ∈ vs, ReadsBack v) (hnonempty : vs ≠ [])
    (hindents : ∀ i ∈ indents.head?, i < column) :
    Yields column indents true (textAt column (itemLines vs))
      (.opening .blockSequence :: added ++ [.closingBlock]) := by
  obtain ⟨v, more, rfl⟩ := List.exists_cons_of_ne_nil hnonempty
  obtain ⟨line, others, hlines⟩ :=
    List.exists_cons_of_ne_nil (hvs v List.mem_cons_self).nonempty
  have hbegins : ∃ text, textAt column (itemLines (v :: more)) = '-' :: ' ' :: text := by
    simp [itemLines, hlines, markItem, textAt]
  obtain ⟨text, htext⟩ := hbegins
  refine hyields.block (fun tokens place rest hplace => ?_) hindents
  subst hplace
  rw [htext]
  exact tokensFrom_opensSequence rfl hindents

/-- An array that is not empty is a block sequence, which behind a key needs no opening. -/
theorem ReadsBack.array {vs : List Json} (hvs : ∀ v ∈ vs, ReadsBack v) (hnonempty : vs ≠ []) :
    ReadsBack (.array vs) := by
  obtain ⟨ds, added, hshown, hadds, hyields⟩ := exists_items hvs hnonempty
  have hitems := itemLines_ne_nil hvs hnonempty
  have harray : Shows (Yaml.sequence ds) (.array vs) := .array rfl rfl hshown
  have hblock : ∀ column indents, (∀ i ∈ indents.head?, i < column) →
      Yields column indents true (textAt column (itemLines vs))
        (.opening .blockSequence :: added ++ [.closingBlock]) := fun column indents =>
    (hyields column indents).sequence hvs hnonempty
  obtain ⟨v, more, rfl⟩ := List.exists_cons_of_ne_nil hnonempty
  obtain ⟨d, others, rfl⟩ : ∃ d others, ds = d :: others := by
    cases hshown
    exact ⟨_, _, rfl⟩
  have hlines : lines (.array (v :: more)) = itemLines (v :: more) := by
    rw [lines, itemLines]
  refine ⟨by rwa [hlines], ?_, ?_⟩
  · refine ⟨_, _, harray, hadds.block (.inl rfl) ?_, ?_⟩
    · rw [collect?, entries?_entryParts]
      rfl
    · rw [hlines]
      exact hblock
  · refine ⟨_, added, entryParts (d :: others), harray, hadds, ?_,
      isFieldMark_entryParts (d :: others),
      fun column => '\n' :: (List.replicate column ' ' ++ textAt column (itemLines (v :: more))),
      fun name column => ?_, fun column indents => .below (hyields column indents)⟩
    · have hentries := entries?_entryParts (d :: others)
      simp only [entryParts, List.flatMap_cons, List.cons_append] at hentries ⊢
      rw [Part.blockValue?, hentries]
      rfl
    · dsimp only
      rw [spaces_textAt column hitems, fieldLines, ← itemLines]
      simp [textAt]

/-! ### Objects -/

/-- A name that may stand before a colon: it has one line, and is not too long as it is written. -/
structure IsKey (name : String) : Prop where
  line : IsLine name
  short : (scalarText name).utf8ByteSize ≤ longestKey

instance : DecidablePred IsKey := fun name =>
  decidable_of_iff (IsLine name ∧ (scalarText name).utf8ByteSize ≤ longestKey)
    ⟨fun h => ⟨h.1, h.2⟩, fun h => ⟨h.line, h.short⟩⟩

/-- A name that may stand before a colon is not too long in its characters. -/
theorem IsKey.utf8ByteSize_le {name : String} (hname : IsKey name) :
    (String.ofList (scalarText name).toList).utf8ByteSize ≤ longestKey := by
  rw [String.ofList_toList]
  exact hname.short

/-- A mapping shows an object if its fields show the fields of the object. -/
theorem shows_mapping {ds : List (Yaml × Yaml)} {fields : List (String × Json)}
    (hfields : List.Forall₂ (fun d field => text? d.1 = some field.1 ∧ Shows d.2 field.2) ds
      fields) : Shows (Yaml.mapping ds) (.object fields) := by
  have hread : ∃ named : List (String × Yaml),
      fields? (Yaml.mapping ds) = some named ∧ named.map Prod.fst = fields.map Prod.fst ∧
        List.Forall₂ Shows (named.map Prod.snd) (fields.map Prod.snd) := by
    induction hfields with
    | nil => exact ⟨[], rfl, rfl, .nil⟩
    | @cons d field ds fields hfield _ ih =>
      obtain ⟨named, hnamed, hnames, hshown⟩ := ih
      refine ⟨(field.1, d.2) :: named, ?_, by simp [hnames], .cons hfield.2 hshown⟩
      change (d :: ds).mapM _ = _
      rw [List.mapM_cons]
      change (do
        let first ← (text? d.1).map (·, d.2)
        let rest ← fields? (Yaml.mapping ds)
        return first :: rest) = _
      rw [hfield.1, hnamed]
      rfl
  obtain ⟨named, hnamed, hnames, hshown⟩ := hread
  exact .object rfl hnamed hnames hshown

/-- A field is read from its lines. -/
theorem exists_field {name : String} {v : Json} (hname : IsKey name) (hv : ReadsBack v) :
    ∃ k d added parts, text? k = some name ∧ Shows d v ∧
      Adds added ([.key, .node k, .value] ++ parts) ∧ Part.blockValue? parts = some d ∧
      (∀ part ∈ parts, part.isFieldMark = false) ∧
      ∀ column indents,
        Yields column (column :: indents) true (textAt column (fieldLines name v)) added := by
  obtain ⟨k, hspells, htext, -⟩ := exists_spells_scalarText hname.line
  obtain ⟨d, added, parts, hshown, hadds, hvalue, hmarks, text, hlines, hfollows⟩ := hv.field
  refine ⟨k, d, [.key, .scalar k, .value] ++ added, parts, htext, hshown,
    (adds_key k).append hadds, hvalue, hmarks, fun column indents => ?_⟩
  rw [hlines]
  exact .field hspells (inline_scalarText hname.line) hname.utf8ByteSize_le
    (hfollows column indents)

/-- A field has lines. -/
theorem fieldLines_ne_nil (name : String) {v : Json} (hv : ReadsBack v) :
    fieldLines name v ≠ [] := by
  obtain ⟨_, _, _, -, -, -, -, text, hlines, -⟩ := hv.field
  intro hnone
  have hempty := hlines name 0
  rw [hnone] at hempty
  simp [textAt] at hempty

/-- Fields have lines. -/
theorem moreFieldLines_ne_nil {fields : List (String × Json)}
    (hfields : ∀ field ∈ fields, ReadsBack field.2) (hnonempty : fields ≠ []) :
    moreFieldLines fields ≠ [] := by
  cases fields with
  | nil => exact absurd rfl hnonempty
  | cons field fields =>
    simp [moreFieldLines, fieldLines_ne_nil field.1 (hfields field List.mem_cons_self)]

/-- Fields are read one after another. -/
theorem exists_fields {fields : List (String × Json)} (hnames : ∀ field ∈ fields, IsKey field.1)
    (hfields : ∀ field ∈ fields, ReadsBack field.2) (hnonempty : fields ≠ []) :
    ∃ ds added parts,
      List.Forall₂ (fun (d : Yaml × Yaml) field => text? d.1 = some field.1 ∧ Shows d.2 field.2)
        ds fields ∧
      Adds added parts ∧ AreFields parts ds ∧
      ∀ column indents,
        Yields column (column :: indents) true (textAt column (moreFieldLines fields)) added := by
  induction fields with
  | nil => exact absurd rfl hnonempty
  | cons field fields ih =>
    obtain ⟨name, v⟩ := field
    obtain ⟨hname, hnames⟩ := List.forall_mem_cons.mp hnames
    obtain ⟨hv, hfields⟩ := List.forall_mem_cons.mp hfields
    obtain ⟨k, d, added, parts, htext, hshown, hadds, hvalue, hmarks, hyields⟩ :=
      exists_field hname hv
    by_cases hlast : fields = []
    · subst hlast
      refine ⟨[(k, d)], added, [.key, .node k, .value] ++ parts ++ [], .cons ⟨htext, hshown⟩ .nil,
        ?_, areFields_nil.cons hmarks hvalue, ?_⟩
      · rwa [List.append_nil]
      · simpa [moreFieldLines] using hyields
    · obtain ⟨ds, more, others, hshownMore, haddsMore, hothers, hyieldsMore⟩ :=
        ih hnames hfields hlast
      refine ⟨(k, d) :: ds, added ++ more, [.key, .node k, .value] ++ parts ++ others,
        .cons ⟨htext, hshown⟩ hshownMore, hadds.append haddsMore, hothers.cons hmarks hvalue,
        fun column indents => ?_⟩
      rw [moreFieldLines, textAt_append column (fieldLines_ne_nil name hv),
        ← spaces_textAt column (moreFieldLines_ne_nil hfields hlast)]
      exact (hyields column indents).append (hyieldsMore column indents)
        ⟨column, rfl, Nat.le_refl _⟩

/-- Fields that are read one after another are a block mapping, which the first key opens. -/
theorem Yields.mapping {fields : List (String × Json)} {column : Nat} {indents : List Nat}
    {added : List Token}
    (hyields : Yields column (column :: indents) true (textAt column (moreFieldLines fields)) added)
    (hnames : ∀ field ∈ fields, IsKey field.1) (hfields : ∀ field ∈ fields, ReadsBack field.2)
    (hnonempty : fields ≠ []) (hindents : ∀ i ∈ indents.head?, i < column) :
    Yields column indents true (textAt column (moreFieldLines fields))
      (.opening .blockMapping :: added ++ [.closingBlock]) := by
  obtain ⟨⟨name, v⟩, more, rfl⟩ := List.exists_cons_of_ne_nil hnonempty
  have hname : IsKey name := hnames (name, v) List.mem_cons_self
  have hv : ReadsBack v := hfields (name, v) List.mem_cons_self
  obtain ⟨k, hspells, -, -⟩ := exists_spells_scalarText hname.line
  obtain ⟨_, _, _, -, -, -, -, text, htext, hfollows⟩ := hv.field
  have hbegins : textAt column (moreFieldLines ((name, v) :: more)) =
      (scalarText name).toList ++
        ':' :: (text column ++ (moreFieldLines more).flatMap (lineAt column)) := by
    rw [moreFieldLines, textAt_append column (fieldLines_ne_nil name hv), htext,
      List.append_assoc, List.cons_append]
  refine hyields.block (fun tokens place rest hplace => ?_) hindents
  subst hplace
  rw [hbegins, List.append_assoc, List.cons_append, List.append_assoc]
  exact tokensFrom_opensMapping hspells (inline_scalarText hname.line) hname.utf8ByteSize_le
    ((hfollows place.column indents).ends _) hindents

/-- An object that is not empty is a block mapping, which behind a key stands further in. -/
theorem ReadsBack.object {fields : List (String × Json)} (hnames : ∀ field ∈ fields, IsKey field.1)
    (hfields : ∀ field ∈ fields, ReadsBack field.2) (hnonempty : fields ≠ []) :
    ReadsBack (.object fields) := by
  obtain ⟨ds, added, parts, hshown, hadds, hparts, hyields⟩ :=
    exists_fields hnames hfields hnonempty
  have hobject : Shows (Yaml.mapping ds) (.object fields) := shows_mapping hshown
  have hblock : ∀ column indents, (∀ i ∈ indents.head?, i < column) →
      Yields column indents true (textAt column (moreFieldLines fields))
        (.opening .blockMapping :: added ++ [.closingBlock]) := fun column indents =>
    (hyields column indents).mapping hnames hfields hnonempty
  have hlines' := moreFieldLines_ne_nil hfields hnonempty
  obtain ⟨⟨name, v⟩, more, rfl⟩ := List.exists_cons_of_ne_nil hnonempty
  have hlines : lines (.object ((name, v) :: more)) = moreFieldLines ((name, v) :: more) := by
    rw [lines, moreFieldLines]
  refine ⟨by rwa [hlines], ?_, ?_⟩
  · refine ⟨_, _, hobject, hadds.block (.inr rfl) hparts.collect, ?_⟩
    rw [hlines]
    exact hblock
  · refine ⟨_, _, _, hobject, hadds.block (.inr rfl) hparts.collect, rfl,
      by simp [Part.isFieldMark],
      fun column => '\n' :: (List.replicate (column + 2) ' ' ++
        textAt (column + 2) (moreFieldLines ((name, v) :: more))),
      fun outer column => ?_,
      fun column indents => .below (hblock (column + 2) (column :: indents) (by simp))⟩
    dsimp only
    rw [spaces_textAt (column + 2) hlines', fieldLines]
    simp [textAt, List.flatMap_map, lineAt_indent, moreFieldLines]

/-! ### Files -/

/-- A value whose texts have one line each, and whose names may stand before a colon, is read back
by itself and behind a key. -/
theorem readsBack {v : Json} (hv : v.MadeOf IsLine IsKey) : ReadsBack v := by
  induction hv with
  | natural n =>
    have hshown : Shows (Yaml.plain (Nat.repr n)) (.natural n) :=
      .natural (not_absenceWords_repr n) (number?_repr n)
    exact .leaf rfl (fun name => rfl) hshown (adds_scalar _) fun _ _ _ =>
      yields_scalar (spells_natural n) (inline_natural n)
  | @string s hline =>
    obtain ⟨d, hspells, htext, hpresent⟩ := exists_spells_scalarText hline
    exact .leaf rfl (fun name => rfl) (.string hpresent htext htext) (adds_scalar _) fun _ _ _ =>
      yields_scalar hspells (inline_scalarText hline)
  | @array items _ ih =>
    by_cases hempty : items = []
    · subst hempty
      have hshown : Shows (Yaml.sequence []) (.array []) := .array rfl rfl .nil
      have hadds : Adds [.opening .flowSequence, .closingFlow .flowSequence]
          [.node (.sequence [])] := adds_brackets rfl
      have hbrackets : (Bracket.flowSequence, '[', ']') ∈ flowBrackets := by decide
      exact .leaf rfl (fun name => rfl) hshown hadds fun _ _ _ => yields_brackets hbrackets
    · exact .array ih hempty
  | @object fields hnames _ ih =>
    by_cases hempty : fields = []
    · subst hempty
      have hshown : Shows (Yaml.mapping []) (.object []) := .object rfl rfl rfl .nil
      have hadds : Adds [.opening .flowMapping, .closingFlow .flowMapping]
          [.node (.mapping [])] := adds_brackets rfl
      have hbrackets : (Bracket.flowMapping, '\x7b', '\x7d') ∈ flowBrackets := by decide
      exact .leaf rfl (fun name => rfl) hshown hadds fun _ _ _ => yields_brackets hbrackets
    · exact .object hnames ih hempty

/-- Line breaks that are written as themselves have one spelling already. -/
theorem unifyBreaks_eq_self {cs : List Char} (hcs : ∀ c ∈ cs, isWritten c = true) :
    unifyBreaks cs = cs := by
  induction cs with
  | nil => rfl
  | cons c cs ih =>
    obtain ⟨hc, hcs⟩ := List.forall_mem_cons.mp hcs
    have hother : c ≠ '\r' ∧ c ≠ '\u0085' := by
      constructor
      all_goals
        rintro rfl
        cases hc
    rw [unifyBreaks.eq_def]
    split
    · next heq => cases heq
    · next heq => exact absurd (List.cons.inj heq).1 hother.1
    · next heq =>
      obtain ⟨rfl, rfl⟩ := List.cons.inj heq
      rw [if_neg (by simp [hother]), ih hcs]

/-- What is written to a file is read back: the document in it shows the value. -/
theorem exists_parse?_render {v : Json} (hv : v.MadeOf IsLine IsKey) :
    ∃ d, parse? (render v) = some d ∧ Shows d v := by
  have hback := readsBack hv
  obtain ⟨d, added, hshown, hadds, hyields⟩ := hback.value
  have hread := hyields 0 [] (by simp)
  obtain ⟨after, -, hend⟩ := hread.reads [] {} 0 [] rfl (by simp [Stands]) (.inl rfl)
  have htext := toList_render hback.nonempty
  have htokens : tokens? (render v) = some added := by
    have hallowed : (render v).toList.all isAllowed = true := by
      rw [htext, List.all_eq_true]
      intro c hc
      have hwritten := hread.written c hc
      simp only [isWritten, Bool.and_eq_true] at hwritten
      exact hwritten.1
    rw [tokens?, if_pos hallowed, htext, unifyBreaks_eq_self hread.written]
    rw [List.replicate_zero, List.append_nil, List.append_nil, List.append_nil, tokensFrom_nil,
      List.reverse_reverse] at hend
    exact hend
  refine ⟨d, ?_, hshown⟩
  rw [parse?, htokens, Option.bind_eq_bind, Option.bind_some]
  have hdocument := document?_of_adds hadds
  split
  · cases hadds {}
  · cases hadds {}
  · rw [hdocument]
    rfl

/-- What is recovered from every document is read from the file that it is written to. -/
theorem read_parse?_render {α : Type} {read : Yaml → Option α} {written : Json} {a : α}
    (hread : Recovers read written a) (hwritten : written.MadeOf IsLine IsKey) :
    (parse? (render written)).bind read = some a := by
  obtain ⟨d, hparse, hshown⟩ := exists_parse?_render hwritten
  rw [hparse, Option.bind_some, hread d hshown]

end SitePlan.Yaml
