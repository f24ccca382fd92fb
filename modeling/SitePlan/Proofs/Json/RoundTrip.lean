import SitePlan.Json.Reader
import SitePlan.Proofs.Json.Tokens

/-!
# Written JSON reads back

A value made of texts, natural numbers, lists and objects is read from the file that it is written
to. Its tokens take the reading from where a value may come to where the value is complete,
whatever arrays and objects are open around it.
-/

namespace SitePlan.Json

/-- A value made of natural numbers, lists, texts of one kind, and objects whose fields have names
of one kind. -/
inductive MadeOf (isText isName : String → Prop) : Json → Prop
  | natural (n : Nat) : MadeOf isText isName (.natural n)
  | string {s : String} (htext : isText s) : MadeOf isText isName (.string s)
  | array {items : List Json} (hitems : ∀ v ∈ items, MadeOf isText isName v) :
      MadeOf isText isName (.array items)
  | object {fields : List (String × Json)} (hnames : ∀ field ∈ fields, isName field.1)
      (hfields : ∀ field ∈ fields, MadeOf isText isName field.2) :
      MadeOf isText isName (.object fields)

/-- A value made of texts, natural numbers, lists and objects, as records are. -/
abbrev Plain : Json → Prop := MadeOf (fun _ => True) fun _ => True

section

variable {isText isName : String → Prop}

attribute [simp] MadeOf.natural

/-- A text is made of itself. -/
@[simp] theorem madeOf_string {s : String} : MadeOf isText isName (.string s) ↔ isText s :=
  ⟨fun hmade => by cases hmade; assumption, .string⟩

/-- A list is made of its items. -/
@[simp] theorem madeOf_array {items : List Json} :
    MadeOf isText isName (.array items) ↔ ∀ v ∈ items, MadeOf isText isName v :=
  ⟨fun hmade => by cases hmade; assumption, .array⟩

end

/-- The characters are read as some tokens, whatever follows them, and these take the reading from
one place to another. -/
def Reads (cs rest : List Char) (first last : Reading) : Prop :=
  ∃ tokens, tokens? (cs ++ rest) = (tokens? rest).map (tokens ++ ·) ∧
    tokens.foldlM Reading.step first = some last

/-- Characters that are read one after another are read together. -/
theorem Reads.trans {cs more rest : List Char} {first middle last : Reading}
    (hcs : Reads cs (more ++ rest) first middle) (hmore : Reads more rest middle last) :
    Reads (cs ++ more) rest first last := by
  obtain ⟨tokens, htokens, hsteps⟩ := hcs
  obtain ⟨others, hothers, hnext⟩ := hmore
  refine ⟨tokens ++ others, ?_, ?_⟩
  · rw [List.append_assoc, htokens, hothers]
    cases tokens? rest <;> simp
  · rw [List.foldlM_append, hsteps]
    exact hnext

/-- A token is read by itself. -/
theorem reads_token {cs rest : List Char} {token : Token} {first last : Reading}
    (htoken : tokens? (cs ++ rest) = (tokens? rest).map (token :: ·))
    (hstep : first.step token = some last) : Reads cs rest first last := by
  refine ⟨[token], htoken, ?_⟩
  rw [List.foldlM_cons, hstep]
  rfl

/-- A punctuation mark is read by itself. -/
theorem reads_punctuation {c : Char} {rest : List Char} {token : Token} {first last : Reading}
    (hc : punctuation? c = some token) (hstep : first.step token = some last) :
    Reads [c] rest first last :=
  reads_token (tokens?_punctuation hc rest) hstep

/-- The start of a line changes nothing. -/
theorem reads_newLine (depth : Nat) (rest : List Char) (reading : Reading) :
    Reads (newLine depth).toList rest reading reading :=
  ⟨[], by rw [tokens?_newLine]; cases tokens? rest <;> rfl, rfl⟩

/-- A space changes nothing. -/
theorem reads_space (rest : List Char) (reading : Reading) : Reads [' '] rest reading reading :=
  ⟨[], by rw [List.singleton_append, tokens?_space rfl]; cases tokens? rest <;> rfl, rfl⟩

/-- The first item of an array is read like any value. -/
theorem reads_firstItem {cs rest : List Char} {stack : List Frame} {v : Json}
    (hvalue : Reads cs rest (.value (.inArray [] :: stack)) (.complete v (.inArray [] :: stack))) :
    Reads cs rest (.firstItem stack) (.complete v (.inArray [] :: stack)) := by
  obtain ⟨tokens, htokens, hsteps⟩ := hvalue
  refine ⟨tokens, htokens, ?_⟩
  cases tokens with
  | nil => cases hsteps
  | cons token more =>
    -- A value does not begin with a closing bracket.
    cases token <;> first | exact hsteps | cases hsteps

/-! ### Objects and arrays -/

/-- The fields of an object that are read, as they are kept until it is closed. -/
def namedFields (fields : List (String × Json)) : List (Option String × Json) :=
  fields.reverse.map fun field => (some field.1, field.2)

/-- An object whose names are made of characters is closed with its fields. -/
theorem closeObject_namedFields (fields : List (String × Json)) :
    closeObject (namedFields fields) = .object fields := by
  have hnames : (fields.map fun field : String × Json => (some field.1, field.2)).mapM
      (fun (field : Option String × Json) => field.1.map (·, field.2)) = some fields := by
    induction fields with
    | nil => rfl
    | cons field rest ih => simp [ih]
  rw [closeObject, namedFields, ← List.map_reverse, List.reverse_reverse, hnames]

/-- What follows an item begins a line or is a comma, so numbers end there. -/
theorem endsNumber_renderItems (depth : Nat) (vs : List Json) {rest : List Char}
    (hends : EndsNumber rest) : EndsNumber ((renderItems depth vs).toList ++ rest) := by
  cases vs with
  | nil => simpa [renderItems] using hends
  | cons v vs =>
    intro c hc
    simp [renderItems] at hc
    subst hc
    decide

/-- What follows a field begins a line or is a comma, so numbers end there. -/
theorem endsNumber_renderFields (depth : Nat) (fields : List (String × Json)) {rest : List Char}
    (hends : EndsNumber rest) : EndsNumber ((renderFields depth fields).toList ++ rest) := by
  cases fields with
  | nil => simpa [renderFields] using hends
  | cons field fields =>
    intro c hc
    simp [renderFields] at hc
    subst hc
    decide

/-- Lines begin where numbers end. -/
theorem endsNumber_newLine (depth : Nat) (rest : List Char) :
    EndsNumber ((newLine depth).toList ++ rest) := by
  intro c hc
  simp [newLine] at hc
  subst hc
  decide

/-- A written value is read wherever a value may come. -/
def ReadsBack (v : Json) : Prop :=
  ∀ depth rest stack, EndsNumber rest →
    Reads (renderAt depth v).toList rest (.value stack) (.complete v stack)

/-- Further items are read up to the end of the array. -/
theorem reads_renderItems {vs : List Json} (hvs : ∀ v ∈ vs, ReadsBack v) (depth outer : Nat)
    (rest : List Char) (v : Json) (items : List Json) (stack : List Frame) :
    Reads ((renderItems depth vs).toList ++ ((newLine outer).toList ++ [']'])) rest
      (.complete v (.inArray items :: stack))
      (.complete (.array ((v :: items).reverse ++ vs)) stack) := by
  induction vs generalizing v items with
  | nil =>
    rw [List.append_nil]
    exact (reads_newLine outer _ _).trans (reads_punctuation rfl rfl)
  | cons w ws ih =>
    obtain ⟨hw, hws⟩ := List.forall_mem_cons.mp hvs
    have hmore := ih hws w (v :: items)
    have hends : EndsNumber (((renderItems depth ws).toList ++ ((newLine outer).toList ++ [']'])) ++
        rest) := by
      rw [List.append_assoc, List.append_assoc]
      exact endsNumber_renderItems depth ws (endsNumber_newLine outer _)
    have hitems : (w :: v :: items).reverse ++ ws = (v :: items).reverse ++ w :: ws := by simp
    rw [hitems] at hmore
    have hwritten : (renderItems depth (w :: ws)).toList ++ ((newLine outer).toList ++ [']']) =
        [','] ++ ((newLine depth).toList ++ ((renderAt depth w).toList ++
          ((renderItems depth ws).toList ++ ((newLine outer).toList ++ [']'])))) := by
      simp [renderItems]
    rw [hwritten]
    exact (reads_punctuation rfl rfl).trans
      ((reads_newLine depth _ _).trans ((hw depth _ _ hends).trans hmore))

/-- Further fields are read up to the end of the object. -/
theorem reads_renderFields {fields : List (String × Json)}
    (hfields : ∀ field ∈ fields, ReadsBack field.2) (depth outer : Nat) (rest : List Char)
    (name : String) (v : Json) (before : List (String × Json)) (stack : List Frame) :
    Reads ((renderFields depth fields).toList ++ ((newLine outer).toList ++ ['\x7d'])) rest
      (.complete v (.inObject (namedFields before) (some name) :: stack))
      (.complete (.object (before ++ (name, v) :: fields)) stack) := by
  induction fields generalizing name v before with
  | nil =>
    have hclosed : Reading.step (.complete v (.inObject (namedFields before) (some name) :: stack))
        .closeObject = some (.complete (.object (before ++ [(name, v)])) stack) := by
      have hfields : (some name, v) :: namedFields before =
          namedFields (before ++ [(name, v)]) := by
        simp [namedFields]
      rw [Reading.step, hfields, closeObject_namedFields]
    exact (reads_newLine outer _ _).trans (reads_punctuation rfl hclosed)
  | cons field fields ih =>
    obtain ⟨key, w⟩ := field
    obtain ⟨hw, hfields⟩ := List.forall_mem_cons.mp hfields
    have hmore := ih hfields key w (before ++ [(name, v)])
    have hends : EndsNumber (((renderFields depth fields).toList ++
        ((newLine outer).toList ++ ['\x7d'])) ++ rest) := by
      rw [List.append_assoc, List.append_assoc]
      exact endsNumber_renderFields depth fields (endsNumber_newLine outer _)
    have hbefore : before ++ [(name, v)] ++ (key, w) :: fields =
        before ++ (name, v) :: (key, w) :: fields := by simp
    rw [hbefore] at hmore
    have hnext : Reading.step (.complete v (.inObject (namedFields before) (some name) :: stack))
        .comma = some (.fieldName (namedFields (before ++ [(name, v)])) stack false) := by
      simp [Reading.step, namedFields]
    have hwritten : (renderFields depth ((key, w) :: fields)).toList ++
          ((newLine outer).toList ++ ['\x7d']) =
        [','] ++ ((newLine depth).toList ++ ((quoteText key).toList ++ ([':'] ++ ([' '] ++
          ((renderAt depth w).toList ++ ((renderFields depth fields).toList ++
            ((newLine outer).toList ++ ['\x7d']))))))) := by
      simp [renderFields]
    rw [hwritten]
    exact (reads_punctuation rfl hnext).trans ((reads_newLine depth _ _).trans
      ((reads_token (tokens?_quoteText key _) rfl).trans ((reads_punctuation rfl rfl).trans
        ((reads_space _ _).trans ((hw depth _ _ hends).trans hmore)))))

/-! ### Values -/

/-- A value that is written is read, whatever is open around it. -/
theorem readsBack {v : Json} (hplain : Plain v) : ReadsBack v := by
  induction hplain with
  | natural n =>
    intro depth rest stack hends
    have htoken : tokens? ((renderAt depth (.natural n)).toList ++ rest) =
        (tokens? rest).map (.natural n :: ·) := by
      rw [renderAt, Nat.toList_repr, tokens?_toDigits n hends]
    exact reads_token htoken rfl
  | @string s _ =>
    intro depth rest stack _
    have htoken : tokens? ((renderAt depth (.string s)).toList ++ rest) =
        (tokens? rest).map (.text (some s) :: ·) := by
      rw [renderAt, tokens?_quoteText]
    exact reads_token htoken rfl
  | @array items _ ih =>
    intro depth rest stack _
    cases items with
    | nil =>
      have hwritten : (renderAt depth (.array [])).toList = ['['] ++ [']'] := by
        simp [renderAt]
      rw [hwritten]
      exact (reads_punctuation rfl rfl).trans (reads_punctuation rfl rfl)
    | cons v vs =>
      obtain ⟨hv, hvs⟩ := List.forall_mem_cons.mp ih
      have hmore := reads_renderItems hvs (depth + 1) depth rest v [] stack
      have hends : EndsNumber (((renderItems (depth + 1) vs).toList ++
          ((newLine depth).toList ++ [']'])) ++ rest) := by
        rw [List.append_assoc, List.append_assoc]
        exact endsNumber_renderItems _ vs (endsNumber_newLine depth _)
      have hwritten : (renderAt depth (.array (v :: vs))).toList =
          ['['] ++ ((newLine (depth + 1)).toList ++ ((renderAt (depth + 1) v).toList ++
            ((renderItems (depth + 1) vs).toList ++ ((newLine depth).toList ++ [']'])))) := by
        simp [renderAt]
      rw [hwritten]
      exact (reads_punctuation rfl rfl).trans ((reads_newLine _ _ _).trans
        ((reads_firstItem (hv _ _ _ hends)).trans hmore))
  | @object fields _ _ ih =>
    intro depth rest stack _
    cases fields with
    | nil =>
      have hwritten : (renderAt depth (.object [])).toList = ['\x7b'] ++ ['\x7d'] := by
        simp [renderAt]
      rw [hwritten]
      exact (reads_punctuation rfl rfl).trans (reads_punctuation rfl rfl)
    | cons field fields =>
      obtain ⟨name, v⟩ := field
      obtain ⟨hv, hfields⟩ := List.forall_mem_cons.mp ih
      have hmore := reads_renderFields hfields (depth + 1) depth rest name v [] stack
      have hends : EndsNumber (((renderFields (depth + 1) fields).toList ++
          ((newLine depth).toList ++ ['\x7d'])) ++ rest) := by
        rw [List.append_assoc, List.append_assoc]
        exact endsNumber_renderFields _ fields (endsNumber_newLine depth _)
      have hwritten : (renderAt depth (.object ((name, v) :: fields))).toList =
          ['\x7b'] ++ ((newLine (depth + 1)).toList ++ ((quoteText name).toList ++ ([':'] ++
            ([' '] ++ ((renderAt (depth + 1) v).toList ++
              ((renderFields (depth + 1) fields).toList ++
                ((newLine depth).toList ++ ['\x7d']))))))) := by
        simp [renderAt]
      rw [hwritten]
      exact (reads_punctuation rfl rfl).trans ((reads_newLine _ _ _).trans
        ((reads_token (tokens?_quoteText name _) rfl).trans ((reads_punctuation rfl rfl).trans
          ((reads_space _ _).trans ((hv _ _ _ hends).trans hmore)))))

/-- A value is read from the text that it is written to. -/
theorem parse?_render {v : Json} (hplain : Plain v) : parse? (render v) = some v := by
  obtain ⟨tokens, htokens, hsteps⟩ := readsBack hplain 0 [] [] (by simp [EndsNumber])
  have hnone : tokens? [] = some [] := by simp [tokens?]
  rw [List.append_nil, hnone, Option.map_some, List.append_nil] at htokens
  rw [parse?, render, htokens, Option.bind_eq_bind, Option.bind_some, hsteps]
  rfl

end SitePlan.Json
