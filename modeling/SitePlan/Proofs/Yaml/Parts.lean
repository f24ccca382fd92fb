import Mathlib.Data.List.TakeWhile
import SitePlan.Yaml.Document
import SitePlan.Yaml.Reader

/-!
# Parts of collections

Tokens are read one after another, and add parts to the innermost collection: values, marks of
entries, and marks of keys and values. The parts between the start and the end of a collection say
its items or its fields.
-/

namespace SitePlan.Yaml

/-! ### Tokens -/

/-- Reading the tokens adds these parts to the innermost collection. -/
def Adds (added : List Token) (parts : List Part) : Prop :=
  ∀ r : Reading, added.foldlM Reading.step r = some ⟨parts.reverse ++ r.parts, r.stack⟩

/-- Tokens that follow one another add their parts together. -/
theorem Adds.append {added more : List Token} {parts others : List Part}
    (hadded : Adds added parts) (hmore : Adds more others) :
    Adds (added ++ more) (parts ++ others) := by
  intro r
  rw [List.foldlM_append, hadded r, Option.bind_eq_bind, Option.bind_some, hmore]
  simp

/-- A scalar is a value. -/
theorem adds_scalar (v : Yaml) : Adds [.scalar v] [.node v] := by
  intro r
  simp [Reading.step, Token.followsKey, Reading.add]

/-- The mark of an entry is kept. -/
theorem adds_entry : Adds [.entry] [.entry] := by
  intro r
  simp [Reading.step, Token.followsKey, Reading.add]

/-- A key is kept between its marks. -/
theorem adds_key (v : Yaml) : Adds [.key, .scalar v, .value] [.key, .node v, .value] := by
  intro r
  simp [Reading.step, Token.followsKey, Reading.awaitsKey, Reading.add]

/-- A block collection is the value of its parts. -/
theorem Adds.block {bracket : Bracket} {added : List Token} {parts : List Part} {v : Yaml}
    (hadded : Adds added parts) (hblock : bracket = .blockSequence ∨ bracket = .blockMapping)
    (hcollect : collect? bracket parts = some v) :
    Adds (.opening bracket :: added ++ [.closingBlock]) [.node v] := by
  intro r
  have hopen : r.step (.opening bracket) = some ⟨[], (bracket, r.parts) :: r.stack⟩ := by
    simp [Reading.step, Token.followsKey]
  have hclose : Reading.step ⟨parts.reverse ++ [], (bracket, r.parts) :: r.stack⟩ .closingBlock =
      some ⟨.node v :: r.parts, r.stack⟩ := by
    simp [Reading.step, Token.followsKey, Reading.close?, hblock, hcollect]
  rw [List.cons_append, List.foldlM_cons, hopen, Option.bind_eq_bind, Option.bind_some,
    List.foldlM_append, hadded, Option.bind_eq_bind, Option.bind_some, List.foldlM_cons, hclose]
  rfl

/-- Brackets around nothing are the value of no parts. -/
theorem adds_brackets {bracket : Bracket} {v : Yaml} (hcollect : collect? bracket [] = some v) :
    Adds [.opening bracket, .closingFlow bracket] [.node v] := by
  intro r
  simp [Reading.step, Token.followsKey, Reading.awaitsKey, Reading.close?, hcollect]

/-! ### Items -/

/-- The parts of a sequence with these items. -/
def entryParts (items : List Yaml) : List Part := items.flatMap fun d => [.entry, .node d]

/-- Every mark of an entry has its item behind it. -/
theorem cut_entryParts (items : List Yaml) :
    Part.cut Part.isEntry (entryParts items) =
      ([], items.map fun d => (.entry, [.node d])) := by
  induction items with
  | nil => rfl
  | cons d items ih =>
    have hparts : entryParts (d :: items) = .entry :: .node d :: entryParts items := rfl
    simp [hparts, Part.cut, ih, Part.isEntry]

/-- Entries are the items of a sequence. -/
theorem entries?_entryParts (items : List Yaml) :
    Part.entries? (entryParts items) = some items := by
  have hvalues : (items.map fun d => (Part.entry, [Part.node d])).mapM
      (fun piece => Part.value? piece.2) = some items := by
    induction items with
    | nil => rfl
    | cons d items ih =>
      rw [List.map_cons, List.mapM_cons, ih]
      rfl
  rw [Part.entries?, cut_entryParts]
  exact hvalues

/-- Entries hold no marks of fields. -/
theorem isFieldMark_entryParts (items : List Yaml) :
    ∀ part ∈ entryParts items, part.isFieldMark = false := by
  intro part hpart
  simp only [entryParts, List.mem_flatMap, List.mem_cons, List.not_mem_nil, or_false] at hpart
  obtain ⟨d, -, rfl | rfl⟩ := hpart <;> rfl

/-! ### Fields -/

/-- Parts without marks stand before the first mark. -/
theorem cut_append {isMark : Part → Bool} {parts : List Part}
    (hparts : ∀ part ∈ parts, isMark part = false) (rest : List Part) :
    Part.cut isMark (parts ++ rest) =
      (parts ++ (Part.cut isMark rest).1, (Part.cut isMark rest).2) := by
  induction parts with
  | nil => rfl
  | cons part parts ih =>
    obtain ⟨hpart, hparts⟩ := List.forall_mem_cons.mp hparts
    simp [Part.cut, hpart, ih hparts]

/-- The parts of a block mapping are these fields. -/
structure AreFields (parts : List Part) (fields : List (Yaml × Yaml)) : Prop where
  /-- A mark comes first. -/
  begins : (Part.cut Part.isFieldMark parts).1 = []
  /-- The pieces from mark to mark are keys and values. -/
  reads : Part.blockFields? (Part.cut Part.isFieldMark parts).2 = some fields

/-- Without parts there are no fields. -/
theorem areFields_nil : AreFields [] [] := ⟨rfl, rfl⟩

/-- A key with its value is a field before others. -/
theorem AreFields.cons {value rest : List Part} {k d : Yaml} {fields : List (Yaml × Yaml)}
    (hmarks : ∀ part ∈ value, part.isFieldMark = false) (hvalue : Part.blockValue? value = some d)
    (hrest : AreFields rest fields) :
    AreFields ([.key, .node k, .value] ++ value ++ rest) ((k, d) :: fields) := by
  have hcut : Part.cut Part.isFieldMark ([.key, .node k, .value] ++ value ++ rest) =
      ([], (.key, [.node k]) :: (.value, value) :: (Part.cut Part.isFieldMark rest).2) := by
    simp [Part.cut, Part.isFieldMark, cut_append hmarks, hrest.begins]
  have hkey : Part.blockValue? [.node k] = some k := rfl
  refine ⟨by rw [hcut], ?_⟩
  rw [hcut, Part.blockFields?, hkey, hvalue, hrest.reads]
  rfl

/-- A block mapping has its fields. -/
theorem AreFields.collect {parts : List Part} {fields : List (Yaml × Yaml)}
    (hparts : AreFields parts fields) :
    collect? .blockMapping parts = some (.mapping fields) := by
  have hcut : Part.cut Part.isFieldMark parts = ([], (Part.cut Part.isFieldMark parts).2) := by
    rw [← hparts.begins]
  rw [collect?, hcut]
  simp [hparts.reads]

/-! ### Documents -/

/-- Tokens that are read within a document are not the mark of its end. -/
theorem not_isDocumentEnd_of_foldlM {added : List Token} {r r' : Reading}
    (hadded : added.foldlM Reading.step r = some r') :
    ∀ token ∈ added, token.isDocumentEnd = false := by
  induction added generalizing r with
  | nil => simp
  | cons token added ih =>
    rw [List.foldlM_cons] at hadded
    obtain ⟨middle, hstep, hmore⟩ := Option.bind_eq_some_iff.mp hadded
    refine List.forall_mem_cons.mpr ⟨?_, ih hmore⟩
    cases token <;> first | rfl | (simp [Reading.step, Token.followsKey] at hstep)

/-- The tokens of a value are a document that holds it. -/
theorem document?_of_adds {added : List Token} {d : Yaml} (hadded : Adds added [.node d]) :
    document? added = some (d, true) := by
  have hend := not_isDocumentEnd_of_foldlM (hadded {})
  have hbody : added.takeWhile (fun t => !t.isDocumentEnd) = added := by
    rw [List.takeWhile_eq_self_iff]
    simpa using hend
  have hrest : added.dropWhile (fun t => !t.isDocumentEnd) = [] := by
    rw [List.dropWhile_eq_nil_iff]
    simpa using hend
  simp only [document?, hbody, hrest, hadded {}]
  rfl

end SitePlan.Yaml
