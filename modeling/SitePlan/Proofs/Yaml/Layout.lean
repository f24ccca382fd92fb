import Mathlib.Data.List.Basic
import SitePlan.Proofs.Yaml.Tokens

/-!
# The layout of written texts

The lines of a value all begin at one column. A text that stands there is read as its tokens, up to
the next line, which may begin further out. Texts that stand below one another are read one after
another, and the block collection around them is closed before what stands further out.
-/

namespace SitePlan.Yaml

/-! ### Lines -/

/-- The text of a line that begins at a column. -/
def lineAt (column : Nat) (line : String) : List Char :=
  List.replicate column ' ' ++ (line.toList ++ ['\n'])

/-- The text of lines of which all but the first begin at a column. -/
def textAt (column : Nat) : List String → List Char
  | [] => []
  | line :: more => line.toList ++ '\n' :: more.flatMap (lineAt column)

/-- Lines that all begin at a column. -/
theorem spaces_textAt (column : Nat) {ls : List String} (hls : ls ≠ []) :
    List.replicate column ' ' ++ textAt column ls = ls.flatMap (lineAt column) := by
  cases ls with
  | nil => exact absurd rfl hls
  | cons line more => simp [textAt, lineAt]

/-- Lines after other lines begin at the column. -/
theorem textAt_append (column : Nat) {ls : List String} (hls : ls ≠ []) (more : List String) :
    textAt column (ls ++ more) = textAt column ls ++ more.flatMap (lineAt column) := by
  cases ls with
  | nil => exact absurd rfl hls
  | cons line rest => simp [textAt]

/-- Two more spaces begin a line two columns further in. -/
theorem lineAt_indent (column : Nat) (line : String) :
    lineAt column ("  " ++ line) = lineAt (column + 2) line := by
  simp [lineAt, List.replicate_add]

/-- The lines of an item stand two columns further in than its mark. -/
theorem textAt_markItem (column : Nat) {ls : List String} (hls : ls ≠ []) :
    textAt column (markItem ls) = '-' :: ' ' :: textAt (column + 2) ls := by
  cases ls with
  | nil => exact absurd rfl hls
  | cons line more => simp [markItem, textAt, List.flatMap_map, lineAt_indent]

/-- A file begins in the first column. -/
theorem toList_render {v : Json} (hlines : lines v ≠ []) :
    (render v).toList = textAt 0 (lines v) := by
  have hall := spaces_textAt 0 hlines
  rw [List.replicate_zero, List.nil_append] at hall
  have hline : lineAt 0 = fun line => line.toList ++ ['\n'] := rfl
  rw [hall, render, String.toList_join, List.flatMap_map, hline]
  simp

/-! ### Texts in block collections -/

/-- The text, standing at its column behind others inside of block collections, is read as these
tokens, up to the next line. -/
structure Yields (column : Nat) (indents : List Nat) (keyAllowed : Bool) (cs : List Char)
    (added : List Token) : Prop where
  /-- The text is made of characters that are written as themselves. -/
  written : ∀ c ∈ cs, isWritten c = true
  /-- A token comes first. -/
  stands : ∀ rest, Stands (cs ++ rest)
  /-- The tokens are read, and what follows is left. -/
  reads : ∀ (tokens : List Token) (place : Place) (n : Nat) (rest : List Char),
    place.column = column → Stands rest → (rest = [] ∨ ∃ i ∈ indents.head?, n ≤ i) →
    ∃ after : Place, after.column = n ∧
      tokensFrom (.inBlock tokens indents keyAllowed)
          ⟨place, cs ++ (List.replicate n ' ' ++ rest)⟩ =
        tokensFrom (.inBlock (added.reverse ++ tokens) indents true) ⟨after, rest⟩

section

variable {column : Nat} {indents : List Nat} {keyAllowed : Bool} {cs ds : List Char}
  {added more : List Token}

/-- A text that begins in the column of another one is read after it. -/
theorem Yields.append (hcs : Yields column indents keyAllowed cs added)
    (hds : Yields column indents true ds more) (hindents : ∃ i ∈ indents.head?, column ≤ i) :
    Yields column indents keyAllowed (cs ++ (List.replicate column ' ' ++ ds)) (added ++ more) where
  written := List.forall_mem_append.mpr ⟨hcs.written,
    List.forall_mem_append.mpr ⟨fun c hc => (inline_spaces column c hc).1, hds.written⟩⟩
  stands rest := by
    rw [List.append_assoc]
    exact hcs.stands _
  reads tokens place n rest hplace hrest hout := by
    obtain ⟨middle, hmiddle, hread⟩ := hcs.reads tokens place column
      (ds ++ (List.replicate n ' ' ++ rest)) hplace (hds.stands _) (.inr hindents)
    obtain ⟨after, hafter, hreadMore⟩ :=
      hds.reads (added.reverse ++ tokens) middle n rest hmiddle hrest hout
    refine ⟨after, hafter, ?_⟩
    rw [List.append_assoc, List.append_assoc, hread, hreadMore, List.reverse_append,
      List.append_assoc]

/-- An item is read behind its mark, with which the sequence goes on. -/
theorem Yields.entry (hcs : Yields (column + 2) (column :: indents) true cs added) :
    Yields column (column :: indents) true ('-' :: ' ' :: cs) (.entry :: added) where
  written := List.forall_mem_cons.mpr ⟨rfl, List.forall_mem_cons.mpr ⟨rfl, hcs.written⟩⟩
  stands rest := stands_cons rfl (by decide) (by decide) _
  reads tokens place n rest hplace hrest hout := by
    have hcolumn : ((place.after '-').afterAll (List.replicate 1 ' ')).column = column + 2 := by
      rw [← hplace]
      rfl
    obtain ⟨after, hafter, hread⟩ := hcs.reads (.entry :: tokens) _ n rest hcolumn hrest hout
    refine ⟨after, hafter, ?_⟩
    rw [List.cons_append, List.cons_append, tokensFrom_entry rfl (by simp [hplace]), hplace,
      openBlock_self, List.reverse_cons, List.append_assoc]
    exact (tokensFrom_spaces 1).trans hread

/-- A block collection is read if its first token opens it: it is closed before the next line. -/
theorem Yields.block {bracket : Bracket}
    (hopens : ∀ (tokens : List Token) (place : Place) (rest : List Char), place.column = column →
      tokensFrom (.inBlock tokens indents true) ⟨place, cs ++ rest⟩ =
        tokensFrom (.inBlock (.opening bracket :: tokens) (column :: indents) true)
          ⟨place, cs ++ rest⟩)
    (hcs : Yields column (column :: indents) true cs added)
    (hindents : ∀ i ∈ indents.head?, i < column) :
    Yields column indents true cs (.opening bracket :: added ++ [.closingBlock]) where
  written := hcs.written
  stands := hcs.stands
  reads tokens place n rest hplace hrest hout := by
    -- What follows stands further out than the collection, and so closes it.
    have hout' : rest = [] ∨ n < column := by
      refine hout.imp_right ?_
      rintro ⟨i, hi, hn⟩
      exact Nat.lt_of_le_of_lt hn (hindents i hi)
    obtain ⟨after, hafter, hread⟩ := hcs.reads (.opening bracket :: tokens) place n rest hplace
      hrest (hout'.imp_right fun hn => ⟨column, rfl, Nat.le_of_lt hn⟩)
    refine ⟨after, hafter, ?_⟩
    rw [hopens tokens place _ hplace, hread,
      tokensFrom_closingBlock hrest (hout'.imp_right fun hn => hafter ▸ hn)]
    simp

/-- The text behind a key and its colon is read as these tokens, up to the next line. -/
structure FollowsKey (column : Nat) (indents : List Nat) (cs : List Char) (added : List Token) :
    Prop where
  /-- The text is made of characters that are written as themselves. -/
  written : ∀ c ∈ cs, isWritten c = true
  /-- White space comes first. -/
  ends : ∀ rest, endsWord (cs ++ rest) = true
  /-- The tokens are read, and what follows is left. -/
  reads : ∀ (tokens : List Token) (place : Place) (n : Nat) (rest : List Char),
    column < place.column → Stands rest → (rest = [] ∨ n ≤ column) →
    ∃ after : Place, after.column = n ∧
      tokensFrom (.inBlock tokens (column :: indents) false)
          ⟨place, cs ++ (List.replicate n ' ' ++ rest)⟩ =
        tokensFrom (.inBlock (added.reverse ++ tokens) (column :: indents) true) ⟨after, rest⟩

/-- A value may stand in the line of its key. -/
theorem FollowsKey.inline
    (hcs : ∀ inner, column < inner → Yields inner (column :: indents) false cs added) :
    FollowsKey column indents (' ' :: cs) added where
  written := List.forall_mem_cons.mpr ⟨rfl, (hcs (column + 1) (Nat.lt_succ_self _)).written⟩
  ends rest := rfl
  reads tokens place n rest hplace hrest hout := by
    have hcolumn : (place.afterAll (List.replicate 1 ' ')).column = place.column + 1 := rfl
    obtain ⟨after, hafter, hread⟩ := (hcs (place.column + 1) (by omega)).reads tokens _ n rest
      hcolumn hrest (hout.imp_right fun hn => ⟨column, rfl, hn⟩)
    exact ⟨after, hafter, (tokensFrom_spaces 1).trans hread⟩

/-- A value may stand in the lines below its key. -/
theorem FollowsKey.below {inner : Nat}
    (hcs : Yields inner (column :: indents) true cs added) :
    FollowsKey column indents ('\n' :: (List.replicate inner ' ' ++ cs)) added where
  written := List.forall_mem_cons.mpr ⟨rfl,
    List.forall_mem_append.mpr ⟨fun c hc => (inline_spaces inner c hc).1, hcs.written⟩⟩
  ends rest := rfl
  reads tokens place n rest _ hrest hout := by
    obtain ⟨after, hafter, hread⟩ := hcs.reads tokens _ n rest
      (column_afterAll_newLine place inner) hrest (hout.imp_right fun hn => ⟨column, rfl, hn⟩)
    refine ⟨after, hafter, ?_⟩
    rw [List.cons_append, tokensFrom_newLine, List.append_assoc, tokensFrom_spaces]
    exact hread

/-- A field is read from its key on. -/
theorem Yields.field {name : List Char} {k : Yaml} (hname : Spells name k) (hline : Inline name)
    (hshort : (String.ofList name).utf8ByteSize ≤ longestKey)
    (hcs : FollowsKey column indents cs added) :
    Yields column (column :: indents) true (name ++ ':' :: cs)
      ([.key, .scalar k, .value] ++ added) where
  written := by
    have hvalue : ∀ c ∈ ':' :: cs, isWritten c = true :=
      List.forall_mem_cons.mpr ⟨rfl, hcs.written⟩
    exact List.forall_mem_append.mpr ⟨fun c hc => (hline c hc).1, hvalue⟩
  stands rest := by
    rw [List.append_assoc]
    exact stands_of_spells hname (by decide) _
  reads tokens place n rest hplace hrest hout := by
    have hbreaks : ∀ c ∈ name, isBreak c = false := fun c hc => (hline c hc).2
    have hcolumn : column < ((place.afterAll name).after ':').column := by
      rw [Place.column_after _ rfl, place.column_afterAll hbreaks]
      omega
    obtain ⟨after, hafter, hread⟩ := hcs.reads (.value :: .scalar k :: .key :: tokens) _ n rest
      hcolumn hrest (hout.imp_right fun hin => by simpa using hin)
    have hadded : ([Token.key, .scalar k, .value] ++ added).reverse ++ tokens =
        added.reverse ++ Token.value :: .scalar k :: .key :: tokens := by simp
    refine ⟨after, hafter, ?_⟩
    rw [List.append_assoc, List.cons_append,
      tokensFrom_key hname hline hshort (hcs.ends _) (by simp [hplace]), hplace, openBlock_self,
      hadded]
    exact hread

/-- A scalar that is a value is read with its line. -/
theorem yields_scalar {v : Yaml} (hcs : Spells cs v) (hline : Inline cs)
    (hindents : ∀ i ∈ indents.head?, i < column) :
    Yields column indents keyAllowed (cs ++ ['\n']) [.scalar v] where
  written := List.forall_mem_append.mpr
    ⟨fun c hc => (hline c hc).1, List.forall_mem_singleton.mpr rfl⟩
  stands rest := by
    rw [List.append_assoc]
    exact stands_of_spells hcs (by decide) _
  reads tokens place n rest hplace hrest hout := by
    refine ⟨(place.afterAll cs).afterAll ('\n' :: List.replicate n ' '),
      column_afterAll_newLine _ n, ?_⟩
    rw [List.append_assoc]
    exact tokensFrom_scalar hcs hline (hplace ▸ hindents) hrest hout

/-- Brackets around nothing are read with their line. -/
theorem yields_brackets {bracket : Bracket} {opens closes : Char}
    (hbrackets : (bracket, opens, closes) ∈ flowBrackets)
    (hindents : ∀ i ∈ indents.head?, i < column) :
    Yields column indents keyAllowed ([opens, closes] ++ ['\n'])
      [.opening bracket, .closingFlow bracket] where
  written := List.forall_mem_append.mpr
    ⟨fun c hc => (inline_flowBrackets hbrackets c hc).1, List.forall_mem_singleton.mpr rfl⟩
  stands rest := stands_flowBrackets hbrackets (by simp) _
  reads tokens place n rest hplace hrest hout := by
    refine ⟨(place.afterAll [opens, closes]).afterAll ('\n' :: List.replicate n ' '),
      column_afterAll_newLine _ n, ?_⟩
    rw [List.append_assoc]
    exact tokensFrom_brackets hbrackets (hplace ▸ hindents) hrest

end

end SitePlan.Yaml
