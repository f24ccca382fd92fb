import SitePlan.Proofs.Yaml.Places
import SitePlan.Proofs.Yaml.PlainScalars

/-!
# Steps of the scanner

A step leaves out white space, closes the block collections that stand further in, and reads one
token. Every token takes a character at least, so the bound that keeps the scanner going is never
what ends it: a text is read step by step to its end.
-/

namespace SitePlan.Yaml

/-! ### Every token takes characters -/

/-- A plain scalar leaves at most what follows. -/
theorem length_rest_plainFrom {inFlow : Bool} {margin : Nat} {written gap : List Char}
    {place : Place} {cs : List Char} {scalar : Scalar}
    (hscalar : plainFrom inFlow margin written gap place cs = some scalar) :
    scalar.rest.length ≤ cs.length := by
  -- The scanner ends, goes on behind a character, or finds no scalar.
  fun_induction plainFrom inFlow margin written gap place cs
  case case1 | case4 =>
    cases hscalar
    exact Nat.le_refl _
  case case3 ih | case6 ih => exact Nat.le_succ_of_le (ih hscalar)
  all_goals cases hscalar

/-- A quoted scalar leaves at most what follows. -/
theorem length_rest_quotedFrom {isDouble joins : Bool} {state : QuoteState}
    {written gap : List Char} {place : Place} {cs : List Char} {scalar : Scalar}
    (hscalar : quotedFrom isDouble state joins written gap place cs = some scalar) :
    scalar.rest.length ≤ cs.length := by
  fun_induction quotedFrom isDouble state joins written gap place cs
  case case1 | case16 =>
    cases hscalar
    exact Nat.le_refl _
  case case5 =>
    cases hscalar
    exact Nat.le_succ _
  case case3 ih | case6 ih | case7 ih | case8 ih | case9 ih | case13 ih | case14 ih | case15 ih =>
    exact Nat.le_succ_of_le (ih hscalar)
  all_goals cases hscalar

/-- A plain scalar takes the character that it begins with. -/
theorem length_rest_plainFrom_begin {s : Scan} {place : Place} {c : Char} {rest : List Char}
    {scalar : Scalar} (hbegins : beginsPlain s.inFlow c rest = true)
    (hmark : ¬(place.column = 0 && isDocumentMark (c :: rest)) = true)
    (hcolon : ¬(c = ':' && (s.inFlow || endsWord rest)) = true)
    (hscalar : plainFrom s.inFlow s.margin [] [] place (c :: rest) = some scalar) :
    scalar.rest.length ≤ rest.length := by
  obtain ⟨hgap, hother⟩ := ne_of_beginsPlain hbegins
  have hflow : flowIndicators.contains c = false := by
    have hall : ∀ d ∈ flowIndicators, d ∈ indicators.removeAll ['-', '?', ':'] := by
      simp [flowIndicators, indicators, List.removeAll]
    by_contra hin
    rw [Bool.not_eq_false, List.contains_iff_mem] at hin
    exact hother c (hall c hin) rfl
  have hends : endsPlain s.inFlow s.margin [] place c rest = false := by
    simp only [endsPlain, hflow]
    simp_all
  rw [plainFrom.eq_def] at hscalar
  dsimp only at hscalar
  rw [hgap, if_neg (by simp), hends, if_neg (by simp)] at hscalar
  split at hscalar
  · cases hscalar
  · exact length_rest_plainFrom hscalar

/-- A token takes the character that it begins with. -/
theorem length_rest_token {s s' : Scan} {place : Place} {c : Char} {rest : List Char}
    {after : Cursor} (htoken : s.token place c rest = some (s', after)) :
    after.rest.length ≤ rest.length := by
  have hone : ∀ {result : Option Scan},
      (result.map fun s => (s, (⟨place.after c, rest⟩ : Cursor))) = some (s', after) →
        after.rest.length ≤ rest.length := by
    rintro result hresult
    obtain ⟨_, -, heq⟩ := Option.map_eq_some_iff.mp hresult
    cases heq
    exact Nat.le_refl _
  have hscalar : ∀ {result : Option Scalar},
      (do
        let scalar ← result
        return (← s.addScalar place scalar, (⟨scalar.place, scalar.rest⟩ : Cursor))) =
          some (s', after) → (∀ scalar, result = some scalar → scalar.rest.length ≤ rest.length) →
        after.rest.length ≤ rest.length := by
    rintro result hresult hlength
    obtain ⟨scalar, hscalar, hadded⟩ := Option.bind_eq_some_iff.mp hresult
    obtain ⟨_, -, heq⟩ := Option.bind_eq_some_iff.mp hadded
    cases heq
    exact hlength scalar hscalar
  -- The branches are those of the scanner: the mark of a document and the directives, the four
  -- brackets and the comma, the marks of entries, keys and values, and the three scalars.
  rw [Scan.token] at htoken
  rcases ite_eq_iff.mp htoken with ⟨-, hmarked⟩ | ⟨hmark, htoken⟩
  · obtain ⟨_, -, heq⟩ := Option.map_eq_some_iff.mp hmarked
    cases heq
    simp
  rcases ite_eq_iff.mp htoken with ⟨-, hdirective⟩ | ⟨-, htoken⟩
  · cases hdirective
  rcases ite_eq_iff.mp htoken with ⟨-, hbracket⟩ | ⟨-, htoken⟩
  · exact hone hbracket
  rcases ite_eq_iff.mp htoken with ⟨-, hbracket⟩ | ⟨-, htoken⟩
  · exact hone hbracket
  rcases ite_eq_iff.mp htoken with ⟨-, hbracket⟩ | ⟨-, htoken⟩
  · exact hone hbracket
  rcases ite_eq_iff.mp htoken with ⟨-, hbracket⟩ | ⟨-, htoken⟩
  · exact hone hbracket
  rcases ite_eq_iff.mp htoken with ⟨-, hcomma⟩ | ⟨-, htoken⟩
  · exact hone hcomma
  rcases ite_eq_iff.mp htoken with ⟨-, hentry⟩ | ⟨-, htoken⟩
  · exact hone hentry
  rcases ite_eq_iff.mp htoken with ⟨-, hkey⟩ | ⟨-, htoken⟩
  · exact hone hkey
  rcases ite_eq_iff.mp htoken with ⟨-, hvalue⟩ | ⟨hcolon, htoken⟩
  · exact hone hvalue
  rcases ite_eq_iff.mp htoken with ⟨-, hquoted⟩ | ⟨-, htoken⟩
  · exact hscalar hquoted fun _ => length_rest_quotedFrom
  rcases ite_eq_iff.mp htoken with ⟨-, hquoted⟩ | ⟨-, htoken⟩
  · exact hscalar hquoted fun _ => length_rest_quotedFrom
  rcases ite_eq_iff.mp htoken with ⟨hbegins, hplain⟩ | ⟨-, hnone⟩
  · exact hscalar hplain fun _ => length_rest_plainFrom_begin hbegins hmark hcolon
  · cases hnone

/-! ### White space -/

/-- White space and comments leave at most what follows them. -/
theorem length_rest_skipGap (inFlow keyAllowed inComment : Bool) (place : Place)
    (cs : List Char) :
    (skipGap inFlow keyAllowed inComment place cs).2.rest.length ≤ cs.length := by
  fun_induction skipGap inFlow keyAllowed inComment place cs
  case case1 | case5 => exact Nat.le_refl _
  case case2 ih | case3 ih | case4 ih => exact Nat.le_succ_of_le ih

/-- What is left after white space and comments begins with no white space. -/
theorem skipGap_skipGap (inFlow keyAllowed inComment : Bool) (place : Place) (cs : List Char) :
    let gap := skipGap inFlow keyAllowed inComment place cs
    skipGap inFlow gap.1 false gap.2.place gap.2.rest = gap := by
  fun_induction skipGap inFlow keyAllowed inComment place cs
  case case1 => rfl
  case case2 ih | case3 ih | case4 ih => exact ih
  case case5 hbreak hspace hcomment =>
    simp only [Bool.or_eq_true, not_or] at hspace
    dsimp only
    rw [skipGap, if_neg hbreak, if_neg (by simp only [Bool.or_eq_true, not_or]; simp_all),
      if_neg hcomment]

/-- The text begins with a token, or it is over. -/
def Stands (rest : List Char) : Prop :=
  ∀ c ∈ rest.head?, isGap c = false ∧ c ≠ '#' ∧ c ≠ byteOrderMark

/-- A token begins with a character that is neither white space nor begins a comment. -/
theorem stands_cons {c : Char} (hgap : isGap c = false) (hcomment : c ≠ '#')
    (horder : c ≠ byteOrderMark) (rest : List Char) : Stands (c :: rest) := by
  intro d hd
  obtain rfl := Option.some.inj hd
  exact ⟨hgap, hcomment, horder⟩

/-- No white space is left out before a token. -/
theorem skipGap_of_stands {rest : List Char} (hrest : Stands rest) (inFlow keyAllowed : Bool)
    (place : Place) :
    skipGap inFlow keyAllowed false place rest = (keyAllowed, ⟨place, rest⟩) := by
  cases rest with
  | nil => rfl
  | cons c rest =>
    obtain ⟨hgap, hcomment, hmark⟩ := hrest c rfl
    simp only [isGap, Bool.or_eq_false_iff, decide_eq_false_iff_not] at hgap
    simp [skipGap, hgap, hcomment, hmark]

/-- Spaces are left out. -/
theorem skipGap_spaces (n : Nat) (inFlow keyAllowed : Bool) (place : Place) (rest : List Char) :
    skipGap inFlow keyAllowed false place (List.replicate n ' ' ++ rest) =
      skipGap inFlow keyAllowed false (place.afterAll (List.replicate n ' ')) rest := by
  induction n generalizing place with
  | zero => rfl
  | succ n ih =>
    rw [List.replicate_succ, List.cons_append, skipGap, if_neg (by decide), if_pos (by simp), ih]
    rfl

/-- A line break is left out, and a key may follow it. -/
theorem skipGap_newLine (keyAllowed : Bool) (place : Place) (rest : List Char) :
    skipGap false keyAllowed false place ('\n' :: rest) =
      skipGap false true false (place.after '\n') rest := by
  rw [skipGap, if_pos (by decide)]
  simp

/-! ### Steps -/

/-- Reads on from a place without white space, where a key may begin or not. -/
def Scan.proceed (s : Scan) (next : Cursor) : Option (List Token) := do
  let s ← s.settleKeys next.place
  let s := s.closeBeyond next.place.column
  match next.rest with
  | [] => do
    let s ← s.closeAll.dropKey
    return s.tokens.reverse
  | c :: rest => do
    let (s, after) ← s.token next.place c rest
    tokensFrom s after

/-- Every step leaves out white space and reads a token. -/
theorem tokensFrom_eq_proceed (s : Scan) (cursor : Cursor) :
    tokensFrom s cursor =
      let gap := skipGap s.inFlow s.keyAllowed false cursor.place cursor.rest
      { s with keyAllowed := gap.1 }.proceed gap.2 := by
  have hgap := length_rest_skipGap s.inFlow s.keyAllowed false cursor.place cursor.rest
  rw [tokensFrom]
  dsimp only
  generalize skipGap s.inFlow s.keyAllowed false cursor.place cursor.rest = gap at hgap ⊢
  obtain ⟨keyAllowed, place, rest⟩ := gap
  unfold Scan.proceed
  cases Scan.settleKeys { s with keyAllowed := keyAllowed } place with
  | none => rfl
  | some s' =>
    cases rest with
    | nil => rfl
    | cons c rest =>
      dsimp only [Option.bind_eq_bind, Option.bind_some]
      cases htoken : (s'.closeBeyond place.column).token place c rest with
      | none => rfl
      | some result =>
        have hshorter := length_rest_token htoken
        simp only [List.length_cons] at hgap
        dsimp only [Option.bind_some]
        rw [dif_pos (by omega)]

/-- A token is read where nothing has to be closed first. -/
theorem tokensFrom_of_token {s s' : Scan} {place : Place} {c : Char} {rest : List Char}
    {after : Cursor} (hrest : Stands (c :: rest)) (hsettled : s.settleKeys place = some s)
    (hclosed : s.closeBeyond place.column = s)
    (htoken : s.token place c rest = some (s', after)) :
    tokensFrom s ⟨place, c :: rest⟩ = tokensFrom s' after := by
  rw [tokensFrom_eq_proceed, skipGap_of_stands hrest]
  unfold Scan.proceed
  simp only [hsettled, Option.bind_eq_bind, Option.bind_some, hclosed, htoken]

/-- Nothing is closed that does not stand further in. -/
theorem closeBeyond_eq_self {s : Scan} {column : Nat} (hs : ∀ i ∈ s.indents.head?, i ≤ column) :
    s.closeBeyond column = s := by
  have hnone : s.indents.takeWhile (column < ·) = [] := by
    cases hindents : s.indents with
    | nil => rfl
    | cons i indents =>
      rw [hindents] at hs
      exact List.takeWhile_cons_of_neg (by simpa using hs i rfl)
  simp [Scan.closeBeyond, Scan.closeBlocks, hnone]

/-! ### Steps in block collections -/

/-- What has been read outside of all flow collections, where no key has begun. -/
def Scan.inBlock (tokens : List Token) (indents : List Nat) (keyAllowed : Bool) : Scan :=
  { tokens := tokens, indents := indents, keyAllowed := keyAllowed }

section

variable {tokens : List Token} {indents : List Nat} {keyAllowed keyAllowed' : Bool}
  {place : Place} {rest : List Char}

/-- White space may be left out before reading on. -/
theorem tokensFrom_of_skipGap {cursor cursor' : Cursor}
    (hgap : skipGap false keyAllowed false cursor.place cursor.rest =
      skipGap false keyAllowed' false cursor'.place cursor'.rest) :
    tokensFrom (.inBlock tokens indents keyAllowed) cursor =
      tokensFrom (.inBlock tokens indents keyAllowed') cursor' := by
  have hproceed : ∀ (keyAllowed : Bool) (cursor : Cursor),
      tokensFrom (.inBlock tokens indents keyAllowed) cursor =
        let gap := skipGap false keyAllowed false cursor.place cursor.rest
        (Scan.inBlock tokens indents gap.1).proceed gap.2 := by
    intro keyAllowed cursor
    rw [tokensFrom_eq_proceed]
    rfl
  rw [hproceed, hproceed, hgap]

/-- Spaces may be left out. -/
theorem tokensFrom_spaces (n : Nat) :
    tokensFrom (.inBlock tokens indents keyAllowed) ⟨place, List.replicate n ' ' ++ rest⟩ =
      tokensFrom (.inBlock tokens indents keyAllowed)
        ⟨place.afterAll (List.replicate n ' '), rest⟩ :=
  tokensFrom_of_skipGap (skipGap_spaces n false keyAllowed place rest)

/-- A line break may be left out. -/
theorem tokensFrom_newLine :
    tokensFrom (.inBlock tokens indents keyAllowed) ⟨place, '\n' :: rest⟩ =
      tokensFrom (.inBlock tokens indents true) ⟨place.after '\n', rest⟩ :=
  tokensFrom_of_skipGap (skipGap_newLine keyAllowed place rest)

/-- In front of a token no white space is left out. -/
theorem tokensFrom_eq_proceed_of_stands (hrest : Stands rest) :
    tokensFrom (.inBlock tokens indents keyAllowed) ⟨place, rest⟩ =
      (Scan.inBlock tokens indents keyAllowed).proceed ⟨place, rest⟩ := by
  have hgap := skipGap_of_stands hrest false keyAllowed place
  rw [tokensFrom_eq_proceed]
  simp only [Scan.inBlock, Scan.inFlow, List.isEmpty_nil, Bool.not_true, hgap]

/-- At the end of the text all block collections are closed. -/
theorem proceed_nil (tokens : List Token) (indents : List Nat) (keyAllowed : Bool)
    (place : Place) :
    (Scan.inBlock tokens indents keyAllowed).proceed ⟨place, []⟩ =
      some (List.replicate indents.length Token.closingBlock ++ tokens).reverse := by
  have hcount : (indents.takeWhile (place.column < ·)).length ≤ indents.length :=
    (List.takeWhile_sublist _).length_le
  have hclosed : ((Scan.inBlock tokens indents keyAllowed).closeBeyond place.column).closeAll =
      .inBlock (List.replicate indents.length .closingBlock ++ tokens) [] keyAllowed := by
    simp only [Scan.closeBeyond, Scan.closeAll, Scan.closeBlocks, Scan.inBlock, Scan.inFlow,
      List.isEmpty_nil, Bool.not_true, Bool.false_eq_true, if_false, List.length_drop,
      ← List.append_assoc, List.replicate_append_replicate, Nat.sub_add_cancel hcount,
      List.drop_drop, List.drop_eq_nil_of_le (Nat.le_of_eq (Nat.add_sub_cancel' hcount).symm)]
  have hproceed : (Scan.inBlock tokens indents keyAllowed).proceed ⟨place, []⟩ = (do
      let s ← ((Scan.inBlock tokens indents keyAllowed).closeBeyond place.column).closeAll.dropKey
      return s.tokens.reverse) := rfl
  rw [hproceed, hclosed]
  rfl

/-- Outside of flow collections a token is read once the block collections that stand further in
are closed. -/
theorem proceed_cons (tokens : List Token) (indents : List Nat) (keyAllowed : Bool)
    (place : Place) (c : Char) (rest : List Char) :
    (Scan.inBlock tokens indents keyAllowed).proceed ⟨place, c :: rest⟩ = (do
      let (s, after) ←
        ((Scan.inBlock tokens indents keyAllowed).closeBeyond place.column).token place c rest
      tokensFrom s after) := by
  rfl

/-- A block collection is closed before what stands further out, and at the end of the text. -/
theorem tokensFrom_closingBlock {column : Nat} (hrest : Stands rest)
    (hout : rest = [] ∨ place.column < column) :
    tokensFrom (.inBlock tokens (column :: indents) keyAllowed) ⟨place, rest⟩ =
      tokensFrom (.inBlock (.closingBlock :: tokens) indents keyAllowed) ⟨place, rest⟩ := by
  rw [tokensFrom_eq_proceed_of_stands hrest, tokensFrom_eq_proceed_of_stands hrest]
  cases rest with
  | nil =>
    rw [proceed_nil, proceed_nil, List.length_cons, List.replicate_succ', List.append_assoc]
    rfl
  | cons c rest =>
    have hin : place.column < column := hout.resolve_left (by simp)
    have hclosed : (Scan.inBlock tokens (column :: indents) keyAllowed).closeBeyond place.column =
        (Scan.inBlock (.closingBlock :: tokens) indents keyAllowed).closeBeyond place.column := by
      simp [Scan.closeBeyond, Scan.closeBlocks, Scan.inBlock, Scan.inFlow, hin,
        List.replicate_succ']
    rw [proceed_cons, proceed_cons, hclosed]

/-- A text of which nothing is left has been read. -/
theorem tokensFrom_nil (place : Place) :
    tokensFrom (.inBlock tokens [] keyAllowed) ⟨place, []⟩ = some tokens.reverse := by
  rw [tokensFrom_eq_proceed_of_stands (by simp [Stands]), proceed_nil]
  rfl

/-- A key that ended in an earlier line is none. -/
theorem tokensFrom_line {s : Scan} {cursor : Cursor} (hflow : s.outerKeys = [])
    (hkey : ∀ key ∈ s.possibleKey, key.required = false ∧ key.place.line < place.line)
    (hgap : skipGap false s.keyAllowed false cursor.place cursor.rest = (true, ⟨place, rest⟩)) :
    tokensFrom s cursor = tokensFrom (.inBlock s.tokens s.indents true) ⟨place, rest⟩ := by
  have hnext : skipGap false true false place rest = (true, ⟨place, rest⟩) := by
    have hagain := skipGap_skipGap false s.keyAllowed false cursor.place cursor.rest
    rwa [hgap] at hagain
  have hsettled : { s with keyAllowed := true }.settleKeys place =
      (Scan.inBlock s.tokens s.indents true).settleKeys place := by
    cases hpossible : s.possibleKey with
    | none => simp [Scan.settleKeys, Scan.settleKey, Scan.inBlock, hflow]
    | some key =>
      obtain ⟨hrequired, hover⟩ := hkey key hpossible
      simp [Scan.settleKeys, Scan.settleKey, Scan.inBlock, PossibleKey.isOver, hflow, hrequired,
        hover]
  have hflow' : s.inFlow = false := by simp [Scan.inFlow, hflow]
  rw [tokensFrom_eq_proceed, tokensFrom_eq_proceed]
  simp only [hflow', hgap, Scan.proceed, hsettled]
  simp only [Scan.inBlock, Scan.inFlow, List.isEmpty_nil, Bool.not_true, hnext]

end

end SitePlan.Yaml
