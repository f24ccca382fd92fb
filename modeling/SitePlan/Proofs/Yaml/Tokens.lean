import SitePlan.Proofs.Yaml.Scalars
import SitePlan.Proofs.Yaml.Steps

/-!
# Tokens of written texts

What is written is read token by token: a scalar with the line that it ends, a key with its colon,
the mark of an entry, and brackets around nothing. The first entry or key of a block collection
opens it, because it stands further in than what is around it.
-/

namespace SitePlan.Yaml

/-! ### Scalars -/

/-- A plain scalar is read where it begins. -/
theorem token_plain {s : Scan} {place : Place} {c d : Char} {cs tail : List Char}
    (hflow : s.inFlow = false) (hbegins : beginsPlain false c cs = true)
    (hdash : c = '-' → cs ≠ []) (hstays : staysPlain c cs = true)
    (hmark : beginsMark (c :: cs) = false) (hd : d ≠ '-' ∧ d ≠ '.') :
    s.token place c (cs ++ d :: tail) = (do
      let scalar ← plainFrom false s.margin (c :: cs).reverse [] (place.afterAll (c :: cs))
        (d :: tail)
      return (← s.addScalar place scalar, ⟨scalar.place, scalar.rest⟩)) := by
  have hmark' : isDocumentMark (c :: (cs ++ d :: tail)) = false :=
    isDocumentMark_append hmark hd.1 hd.2
  obtain ⟨hgap, hother⟩ := ne_of_beginsPlain hbegins
  have hword : c ∈ ['-', '?', ':'] → endsWord (cs ++ d :: tail) = false := by
    intro hc
    obtain ⟨e, es, rfl, he⟩ := exists_word_of_beginsPlain hbegins hdash hstays hc
    simp [endsWord, he]
  have hbegins' : beginsPlain false c (cs ++ d :: tail) = true := by
    by_cases hc : c ∈ ['-', '?', ':']
    · obtain ⟨e, es, rfl, -⟩ := exists_word_of_beginsPlain hbegins hdash hstays hc
      exact hbegins
    · have hindicator : c ∉ indicators := fun hin =>
        hother c (List.mem_filter.mpr ⟨hin, by simpa using hc⟩) rfl
      simp [beginsPlain, hgap, hindicator]
  have hplain := plainFrom_text s.margin hgap hstays fun _ : place.column = 0 => hmark'
  rw [List.cons_append] at hplain
  have hentry : (c = '-' && endsWord (cs ++ d :: tail)) = false := by
    simpa using fun hc => hword (by simp [hc])
  have hkey : (c = '?' && (false || endsWord (cs ++ d :: tail))) = false := by
    simpa using fun hc => hword (by simp [hc])
  have hvalue : (c = ':' && (false || endsWord (cs ++ d :: tail))) = false := by
    simpa using fun hc => hword (by simp [hc])
  rw [Scan.token, hflow, hmark', hentry, hkey, hvalue, hbegins']
  simp [hother '%' (by decide), hother '[' (by decide), hother '\x7b' (by decide),
    hother ']' (by decide), hother '\x7d' (by decide), hother ',' (by decide),
    hother '\x27' (by decide), hother '"' (by decide), hplain]

/-- The scalar that is read once its characters have been. A plain one takes the white space after
it. -/
def scalarEnd (margin : Nat) (cs : List Char) (place : Place) (tail : List Char) :
    Yaml → Option Scalar
  | .plain _ => plainFrom false margin cs.reverse [] place tail
  | v => some ⟨v, place, tail, false⟩

/-- A scalar is read where it begins, whichever way it is written. -/
theorem exists_token_spells (s : Scan) (place : Place) {d : Char} {cs : List Char} {v : Yaml}
    (hflow : s.inFlow = false) (hcs : Spells cs v) (hd : d ≠ '-' ∧ d ≠ '.' ∧ d ≠ '\x27')
    (tail : List Char) :
    ∃ c rest, cs = c :: rest ∧ Stands (c :: (rest ++ d :: tail)) ∧
      s.token place c (rest ++ d :: tail) = (do
        let scalar ← scalarEnd s.margin cs (place.afterAll cs) (d :: tail) v
        return (← s.addScalar place scalar, ⟨scalar.place, scalar.rest⟩)) := by
  cases hcs with
  | @plain c cs hbegins hdash hstays hmark horder =>
    obtain ⟨hgap, hother⟩ := ne_of_beginsPlain hbegins
    exact ⟨c, cs, rfl, stands_cons hgap (hother '#' (by decide)) horder _,
      token_plain hflow hbegins hdash hstays hmark ⟨hd.1, hd.2.1⟩⟩
  | @single cs hline =>
    have hend : (d :: tail).head? ≠ some '\x27' := by simpa using hd.2.2
    have hquoted := quotedFrom_single place hline hend
    refine ⟨'\x27', cs.flatMap doubledQuote ++ ['\x27'], rfl,
      stands_cons rfl (by decide) (by decide) _, ?_⟩
    simp [Scan.token, isDocumentMark, hquoted, scalarEnd]
  | double cs =>
    have hquoted := quotedFrom_double cs (d :: tail) place
    refine ⟨'"', cs.flatMap namedChar ++ ['"'], rfl,
      stands_cons rfl (by decide) (by decide) _, ?_⟩
    simp [Scan.token, isDocumentMark, hquoted, scalarEnd]

/-- A scalar is a token. -/
theorem stands_of_spells {d : Char} {cs : List Char} {v : Yaml} (hcs : Spells cs v)
    (hd : d ≠ '-' ∧ d ≠ '.' ∧ d ≠ '\x27') (tail : List Char) : Stands (cs ++ d :: tail) := by
  obtain ⟨c, rest, rfl, hstands, -⟩ :=
    exists_token_spells {} {} rfl hcs hd tail
  exact hstands

/-- A scalar ends at a colon with white space after it. -/
theorem scalarEnd_colon {cs tail : List Char} {v : Yaml} (hcs : Spells cs v)
    (hends : endsWord tail = true) (margin : Nat) (place : Place) :
    scalarEnd margin cs place (':' :: tail) v = some ⟨v, place, ':' :: tail, false⟩ := by
  cases hcs with
  | plain =>
    rw [scalarEnd, plainFrom_colon hends, List.reverse_reverse]
  | single => rfl
  | double => rfl

/-- A scalar ends with its line, and the next token begins the next one. -/
theorem exists_scalarEnd_line {cs tail : List Char} {v : Yaml} (hcs : Spells cs v)
    {margin n : Nat} (htail : Stands tail) (hmargin : tail = [] ∨ n < margin) (place : Place) :
    ∃ scalar, scalarEnd margin cs place ('\n' :: (List.replicate n ' ' ++ tail)) v = some scalar ∧
      scalar.value = v ∧
      skipGap false scalar.endsLine false scalar.place scalar.rest =
        (true, ⟨place.afterAll ('\n' :: List.replicate n ' '), tail⟩) := by
  have hgap : ∀ keyAllowed, skipGap false keyAllowed false place
      ('\n' :: (List.replicate n ' ' ++ tail)) =
        (true, ⟨place.afterAll ('\n' :: List.replicate n ' '), tail⟩) := fun keyAllowed => by
    rw [skipGap_newLine, skipGap_spaces, skipGap_of_stands htail]
    rfl
  have hnext : ∀ c ∈ tail.head?, isGap c = false ∧ n < margin := by
    intro c hc
    refine ⟨(htail c hc).1, hmargin.resolve_left ?_⟩
    rintro rfl
    cases hc
  cases hcs with
  | @plain c cs =>
    refine ⟨⟨_, place.afterAll ('\n' :: List.replicate n ' '), tail, true⟩, ?_, rfl,
      skipGap_of_stands htail false true _⟩
    have hplain := plainFrom_line (c :: cs).reverse place hnext
    rw [List.reverse_reverse] at hplain
    exact hplain
  | single => exact ⟨_, rfl, rfl, hgap false⟩
  | double => exact ⟨_, rfl, rfl, hgap false⟩

section

variable {tokens : List Token} {indents : List Nat} {keyAllowed keyAllowed' : Bool}
  {place : Place} {rest : List Char}

/-! ### Entries -/

/-- Opening a block collection adds a token and a column at most. -/
theorem exists_openBlock (tokens : List Token) (indents : List Nat) (keyAllowed : Bool)
    (column : Nat) (bracket : Bracket) :
    ∃ tokens' indents', (Scan.inBlock tokens indents keyAllowed).openBlock column bracket =
      .inBlock tokens' indents' keyAllowed := by
  unfold Scan.openBlock
  split
  · exact ⟨.opening bracket :: tokens, column :: indents, rfl⟩
  · exact ⟨tokens, indents, rfl⟩

/-- A block collection is opened further in than those around it. -/
theorem openBlock_of_lt {column : Nat} (bracket : Bracket)
    (hindents : ∀ i ∈ indents.head?, i < column) :
    (Scan.inBlock tokens indents keyAllowed).openBlock column bracket =
      .inBlock (.opening bracket :: tokens) (column :: indents) keyAllowed := by
  have hall : indents.head?.all (· < column) = true := by
    rw [Option.all_eq_true]
    simpa using hindents
  rw [Scan.openBlock, if_pos (by simpa [Scan.inBlock, Scan.inFlow] using hall)]
  rfl

/-- No block collection is opened where one stands already. -/
theorem openBlock_self (column : Nat) (bracket : Bracket) :
    (Scan.inBlock tokens (column :: indents) keyAllowed).openBlock column bracket =
      .inBlock tokens (column :: indents) keyAllowed := by
  simp [Scan.openBlock, Scan.inBlock]

/-- A dash with white space after it is the mark of an entry. -/
theorem token_entry {s : Scan} {place : Place} {rest : List Char} (hends : endsWord rest = true) :
    s.token place '-' rest = (s.addEntry place).map fun s => (s, ⟨place.after '-', rest⟩) := by
  have hmark : isDocumentMark ('-' :: rest) = false := by
    unfold isDocumentMark
    split
    · next heq =>
      obtain rfl := (List.cons.inj heq).2
      cases hends
    · next heq => cases heq
    · rfl
  simp [Scan.token, hmark, hends]

/-- The mark of an entry opens a sequence if it stands further in than what is around it. -/
theorem tokensFrom_entry (hends : endsWord rest = true)
    (hindents : ∀ i ∈ indents.head?, i ≤ place.column) :
    tokensFrom (.inBlock tokens indents true) ⟨place, '-' :: rest⟩ =
      let s := (Scan.inBlock tokens indents true).openBlock place.column .blockSequence
      tokensFrom (.inBlock (.entry :: s.tokens) s.indents true) ⟨place.after '-', rest⟩ := by
  refine tokensFrom_of_token (stands_cons rfl (by decide) (by decide) _) rfl
    (closeBeyond_eq_self hindents) ?_
  obtain ⟨tokens', indents', hopened⟩ :=
    exists_openBlock tokens indents true place.column .blockSequence
  rw [token_entry hends, Scan.addEntry, if_neg (by simp [Scan.inBlock]), hopened]
  rfl

/-- The mark of an entry opens a sequence further in than what is around it. -/
theorem tokensFrom_opensSequence (hends : endsWord rest = true)
    (hindents : ∀ i ∈ indents.head?, i < place.column) :
    tokensFrom (.inBlock tokens indents true) ⟨place, '-' :: rest⟩ =
      tokensFrom (.inBlock (.opening .blockSequence :: tokens) (place.column :: indents) true)
        ⟨place, '-' :: rest⟩ := by
  rw [tokensFrom_entry hends fun i hi => Nat.le_of_lt (hindents i hi),
    tokensFrom_entry hends (by simp), openBlock_of_lt _ hindents, openBlock_self]

/-! ### Keys -/

/-- A colon with white space after it is the mark of a value. -/
theorem token_value {s : Scan} {place : Place} {rest : List Char} (hends : endsWord rest = true) :
    s.token place ':' rest = (s.addValueMark place).map fun s => (s, ⟨place.after ':', rest⟩) := by
  simp [Scan.token, isDocumentMark, hends]

/-- A key has its mark put before it, and before that the start of the mapping if it is the first
one. -/
theorem addValueMark_key (key : PossibleKey) (v : Yaml) (hkey : key.tokensBefore = tokens.length) :
    let s := (Scan.inBlock tokens indents keyAllowed).openBlock key.place.column .blockMapping
    { Scan.inBlock (.scalar v :: tokens) indents keyAllowed' with
      possibleKey := some key }.addValueMark place =
      some (.inBlock (.value :: .scalar v :: .key :: s.tokens) s.indents false) := by
  have hcount : (Token.scalar v :: tokens).length - key.tokensBefore = 1 := by
    rw [hkey, List.length_cons]
    omega
  by_cases hopen : indents.head?.all (· < key.place.column) = true
  · simp only [Scan.addValueMark, Scan.markKey, Scan.inBlock, Scan.openBlock, hcount,
      Scan.inFlow, List.isEmpty_nil, hopen]
    rfl
  · simp only [Scan.addValueMark, Scan.markKey, Scan.inBlock, Scan.openBlock, hcount,
      Scan.inFlow, List.isEmpty_nil, hopen]
    rfl

/-- A scalar with a colon after it is a key, if it is not too long. -/
theorem tokensFrom_key {cs : List Char} {v : Yaml} (hcs : Spells cs v) (hline : Inline cs)
    (hshort : (String.ofList cs).utf8ByteSize ≤ longestKey) (hends : endsWord rest = true)
    (hindents : ∀ i ∈ indents.head?, i ≤ place.column) :
    tokensFrom (.inBlock tokens indents true) ⟨place, cs ++ ':' :: rest⟩ =
      let s := (Scan.inBlock tokens indents true).openBlock place.column .blockMapping
      tokensFrom (.inBlock (.value :: .scalar v :: .key :: s.tokens) s.indents false)
        ⟨(place.afterAll cs).after ':', rest⟩ := by
  have hbreaks : ∀ c ∈ cs, isBreak c = false := fun c hc => (hline c hc).2
  let key : PossibleKey := ⟨tokens.length, place, indents.head? = some place.column⟩
  let s : Scan := { Scan.inBlock (.scalar v :: tokens) indents false with possibleKey := some key }
  have hread : tokensFrom (.inBlock tokens indents true) ⟨place, cs ++ ':' :: rest⟩ =
      tokensFrom s ⟨place.afterAll cs, ':' :: rest⟩ := by
    obtain ⟨c, cs', rfl, hstands, htoken⟩ :=
      exists_token_spells (.inBlock tokens indents true) place rfl hcs (d := ':') (by decide) rest
    rw [List.cons_append]
    refine tokensFrom_of_token hstands rfl (closeBeyond_eq_self hindents) ?_
    rw [htoken, scalarEnd_colon hcs hends]
    rfl
  have hnotOver : key.isOver (place.afterAll cs) = false := by
    simp only [PossibleKey.isOver, place.line_afterAll hbreaks, place.index_afterAll cs, key]
    simpa using hshort
  have hsettled : s.settleKeys (place.afterAll cs) = some s := by
    simp [Scan.settleKeys, Scan.settleKey, hnotOver, s, Scan.inBlock]
  have hclosed : s.closeBeyond (place.afterAll cs).column = s := by
    refine closeBeyond_eq_self fun i hi => ?_
    have := hindents i hi
    rw [place.column_afterAll hbreaks]
    omega
  rw [hread]
  refine tokensFrom_of_token (stands_cons rfl (by decide) (by decide) _) hsettled hclosed ?_
  rw [token_value hends, addValueMark_key key v rfl]
  rfl

/-- A key opens a mapping further in than what is around it. -/
theorem tokensFrom_opensMapping {cs : List Char} {v : Yaml} (hcs : Spells cs v)
    (hline : Inline cs) (hshort : (String.ofList cs).utf8ByteSize ≤ longestKey)
    (hends : endsWord rest = true) (hindents : ∀ i ∈ indents.head?, i < place.column) :
    tokensFrom (.inBlock tokens indents true) ⟨place, cs ++ ':' :: rest⟩ =
      tokensFrom (.inBlock (.opening .blockMapping :: tokens) (place.column :: indents) true)
        ⟨place, cs ++ ':' :: rest⟩ := by
  rw [tokensFrom_key hcs hline hshort hends fun i hi => Nat.le_of_lt (hindents i hi),
    tokensFrom_key hcs hline hshort hends (by simp), openBlock_of_lt _ hindents, openBlock_self]

/-! ### Values -/

/-- A key may begin with a scalar, but it need not. -/
theorem exists_saveKey (tokens : List Token) (keyAllowed : Bool)
    (hindents : ∀ i ∈ indents.head?, i < place.column) :
    ∃ possibleKey : Option PossibleKey,
      (∀ key ∈ possibleKey, key.required = false ∧ key.place = place) ∧
      (Scan.inBlock tokens indents keyAllowed).saveKey place =
        some { Scan.inBlock tokens indents keyAllowed with possibleKey := possibleKey } := by
  have hfree : indents.head? ≠ some place.column := fun hhead =>
    absurd (hindents _ hhead) (Nat.lt_irrefl _)
  cases keyAllowed with
  | false => exact ⟨none, by simp, rfl⟩
  | true =>
    refine ⟨some ⟨tokens.length, place, false⟩, by simp, ?_⟩
    simp [Scan.saveKey, Scan.dropKey, Scan.inBlock, hfree]

/-- A scalar that is a value ends with its line. -/
theorem tokensFrom_scalar {cs : List Char} {v : Yaml} {n : Nat} (hcs : Spells cs v)
    (hline : Inline cs) (hindents : ∀ i ∈ indents.head?, i < place.column) (hrest : Stands rest)
    (hout : rest = [] ∨ ∃ i ∈ indents.head?, n ≤ i) :
    tokensFrom (.inBlock tokens indents keyAllowed)
        ⟨place, cs ++ '\n' :: (List.replicate n ' ' ++ rest)⟩ =
      tokensFrom (.inBlock (.scalar v :: tokens) indents true)
        ⟨(place.afterAll cs).afterAll ('\n' :: List.replicate n ' '), rest⟩ := by
  have hbreaks : ∀ c ∈ cs, isBreak c = false := fun c hc => (hline c hc).2
  have hmargin : rest = [] ∨ n < (Scan.inBlock tokens indents keyAllowed).margin := by
    refine hout.imp_right ?_
    rintro ⟨i, hi, hn⟩
    simp only [Scan.margin, Scan.inBlock, Option.mem_def.mp hi]
    exact Nat.lt_succ_of_le hn
  obtain ⟨possibleKey, hkey, hsaved⟩ :=
    exists_saveKey tokens keyAllowed hindents
  obtain ⟨scalar, hend, rfl, hgap⟩ :=
    exists_scalarEnd_line hcs hrest hmargin (place.afterAll cs)
  obtain ⟨c, cs', rfl, hstands, htoken⟩ :=
    exists_token_spells (.inBlock tokens indents keyAllowed) place rfl hcs (d := '\n')
      (by decide) (List.replicate n ' ' ++ rest)
  let s : Scan := { Scan.inBlock (.scalar scalar.value :: tokens) indents scalar.endsLine with
    possibleKey := possibleKey }
  have hread : tokensFrom (.inBlock tokens indents keyAllowed)
        ⟨place, c :: cs' ++ '\n' :: (List.replicate n ' ' ++ rest)⟩ =
      tokensFrom s ⟨scalar.place, scalar.rest⟩ := by
    rw [List.cons_append]
    refine tokensFrom_of_token hstands rfl
      (closeBeyond_eq_self fun i hi => Nat.le_of_lt (hindents i hi)) ?_
    rw [htoken, hend, Option.bind_eq_bind, Option.bind_some, Scan.addScalar, hsaved]
    rfl
  rw [hread]
  refine tokensFrom_line rfl (fun key hin => ?_) hgap
  obtain ⟨hrequired, rfl⟩ := hkey key hin
  exact ⟨hrequired, line_lt_afterAll_newLine _ hbreaks n⟩

/-- The flow collections with their brackets. -/
def flowBrackets : List (Bracket × Char × Char) :=
  [(.flowSequence, '[', ']'), (.flowMapping, '\x7b', '\x7d')]

section

variable {bracket : Bracket} {opens closes : Char}

/-- A bracket opens a flow collection. -/
theorem token_opensFlow (hbrackets : (bracket, opens, closes) ∈ flowBrackets) (s : Scan) :
    s.token place opens rest =
      (s.openFlow place bracket).map fun s => (s, ⟨place.after opens, rest⟩) := by
  simp only [flowBrackets, List.mem_cons, List.not_mem_nil, or_false, Prod.mk.injEq] at hbrackets
  rcases hbrackets with ⟨rfl, rfl, rfl⟩ | ⟨rfl, rfl, rfl⟩ <;> simp [Scan.token, isDocumentMark]

/-- A bracket closes a flow collection. -/
theorem token_closesFlow (hbrackets : (bracket, opens, closes) ∈ flowBrackets) (s : Scan) :
    s.token place closes rest =
      (s.closeFlow bracket).map fun s => (s, ⟨place.after closes, rest⟩) := by
  simp only [flowBrackets, List.mem_cons, List.not_mem_nil, or_false, Prod.mk.injEq] at hbrackets
  rcases hbrackets with ⟨rfl, rfl, rfl⟩ | ⟨rfl, rfl, rfl⟩ <;> simp [Scan.token, isDocumentMark]

/-- Brackets stand in their line. -/
theorem inline_flowBrackets (hbrackets : (bracket, opens, closes) ∈ flowBrackets) :
    Inline [opens, closes] := by
  have hall : ∀ b ∈ flowBrackets, Inline [b.2.1, b.2.2] := by decide
  exact hall _ hbrackets

/-- Brackets are tokens. -/
theorem stands_flowBrackets (hbrackets : (bracket, opens, closes) ∈ flowBrackets) {c : Char}
    (hc : c ∈ [opens, closes]) (rest : List Char) : Stands (c :: rest) := by
  simp only [flowBrackets, List.mem_cons, List.not_mem_nil, or_false, Prod.mk.injEq]
    at hbrackets hc
  rcases hbrackets with ⟨rfl, rfl, rfl⟩ | ⟨rfl, rfl, rfl⟩ <;> rcases hc with rfl | rfl <;>
    exact stands_cons rfl (by decide) (by decide) rest

/-- Brackets around nothing are a collection, which ends its line. -/
theorem tokensFrom_brackets {n : Nat} (hbrackets : (bracket, opens, closes) ∈ flowBrackets)
    (hindents : ∀ i ∈ indents.head?, i < place.column) (hrest : Stands rest) :
    tokensFrom (.inBlock tokens indents keyAllowed)
        ⟨place, [opens, closes] ++ '\n' :: (List.replicate n ' ' ++ rest)⟩ =
      tokensFrom (.inBlock (.closingFlow bracket :: .opening bracket :: tokens) indents true)
        ⟨(place.afterAll [opens, closes]).afterAll ('\n' :: List.replicate n ' '), rest⟩ := by
  have hbreaks : ∀ c ∈ [opens, closes], isBreak c = false :=
    fun c hc => (inline_flowBrackets hbrackets c hc).2
  obtain ⟨possibleKey, hkey, hsaved⟩ :=
    exists_saveKey tokens keyAllowed hindents
  let s₁ : Scan := { Scan.inBlock (.opening bracket :: tokens) indents true with
    outerKeys := [possibleKey] }
  let s₂ : Scan := { Scan.inBlock (.closingFlow bracket :: .opening bracket :: tokens) indents
    false with possibleKey := possibleKey }
  have hopened : tokensFrom (.inBlock tokens indents keyAllowed)
        ⟨place, opens :: closes :: '\n' :: (List.replicate n ' ' ++ rest)⟩ =
      tokensFrom s₁ ⟨place.after opens, closes :: '\n' :: (List.replicate n ' ' ++ rest)⟩ := by
    refine tokensFrom_of_token (stands_flowBrackets hbrackets (by simp) _) rfl
      (closeBeyond_eq_self fun i hi => Nat.le_of_lt (hindents i hi)) ?_
    rw [token_opensFlow hbrackets, Scan.openFlow, hsaved]
    rfl
  -- The key that may have begun with the bracket is still possible behind it.
  have hsettled : s₁.settleKeys (place.after opens) = some s₁ := by
    cases possibleKey with
    | none => rfl
    | some key =>
      obtain ⟨-, hplace⟩ := hkey key rfl
      have hsize : opens.utf8Size ≤ longestKey := Nat.le_trans opens.utf8Size_le_four (by decide)
      have hnotOver : key.isOver (place.after opens) = false := by
        rw [PossibleKey.isOver, hplace, place.line_after (hbreaks opens (by simp)),
          place.index_after]
        simpa using hsize
      simp [Scan.settleKeys, Scan.settleKey, Scan.inBlock, s₁, hnotOver]
  have hclosed : tokensFrom s₁
        ⟨place.after opens, closes :: '\n' :: (List.replicate n ' ' ++ rest)⟩ =
      tokensFrom s₂
        ⟨(place.after opens).after closes, '\n' :: (List.replicate n ' ' ++ rest)⟩ := by
    refine tokensFrom_of_token (stands_flowBrackets hbrackets (by simp) _) hsettled rfl ?_
    rw [token_closesFlow hbrackets, Scan.closeFlow]
    rfl
  rw [List.cons_append, List.singleton_append, hopened, hclosed]
  refine tokensFrom_line rfl (fun key hin => ?_) ?_
  · obtain ⟨hrequired, rfl⟩ := hkey key hin
    exact ⟨hrequired, line_lt_afterAll_newLine _ hbreaks n⟩
  · dsimp only
    rw [skipGap_newLine, skipGap_spaces, skipGap_of_stands hrest]
    rfl

end

end

end SitePlan.Yaml
