import Mathlib.Data.List.Forall2
import SitePlan.Hardware.Document
import SitePlan.Json.Document
import SitePlan.Proofs.Json.RoundTrip
import SitePlan.Proofs.SortedMap

/-!
# Reading what was written

Records are written as JSON values and read from the values of any notation. A document shows a
JSON value if each part of the value can be found in it, in whatever way its notation writes texts,
numbers, lists and fields. From such a document each reader recovers what its writer wrote: a part
at a time, and field by field in a record.
-/

namespace SitePlan.Document

variable {δ : Type} [Document δ]

/-- The document says what the JSON value says. -/
inductive Shows : δ → Json → Prop
  | natural {d : δ} {n : Nat} (present : isAbsent d = false) (reads : natural? d = some n) :
      Shows d (.natural n)
  | string {d : δ} {s : String} (present : isAbsent d = false) (text : text? d = some s)
      (word : word? d = some s) : Shows d (.string s)
  | array {d : δ} {ds : List δ} {items : List Json} (present : isAbsent d = false)
      (reads : items? d = some ds) (shown : List.Forall₂ Shows ds items) :
      Shows d (.array items)
  | object {d : δ} {ds : List (String × δ)} {fields : List (String × Json)}
      (present : isAbsent d = false) (reads : fields? d = some ds)
      (names : ds.map Prod.fst = fields.map Prod.fst)
      (shown : List.Forall₂ Shows (ds.map Prod.snd) (fields.map Prod.snd)) :
      Shows d (.object fields)

/-- A document that shows a value is there. -/
theorem Shows.present {d : δ} {written : Json} (hd : Shows d written) : isAbsent d = false := by
  cases hd <;> assumption

/-- Reading gives the value from every document that shows what is written. -/
def Recovers {α : Type} (read : δ → Option α) (written : Json) (value : α) : Prop :=
  ∀ d, Shows d written → read d = some value

/-! ### Parts -/

section

variable {α β : Type}

/-- Texts are recovered. -/
theorem recovers_text (s : String) : Recovers (δ := δ) text? (.string s) s := by
  intro d hd
  cases hd with
  | string _ text _ => exact text

/-- What is read from a word is recovered from its own word. -/
theorem recovers_word {ofWord : String → Option α} {word : String} {a : α}
    (hword : ofWord word = some a) :
    Recovers (δ := δ) (fun d => do ofWord (← word? d)) (.string word) a := by
  intro d hd
  cases hd with
  | string _ _ reads => simp [reads, hword]

/-- What is read from a text is recovered from its own text. -/
theorem recovers_textOf {ofText : String → Option α} {text : String} {a : α}
    (htext : ofText text = some a) :
    Recovers (δ := δ) (fun d => do ofText (← text? d)) (.string text) a := by
  intro d hd
  cases hd with
  | string _ reads _ => simp [reads, htext]

/-- Numbers below a bound are recovered. -/
theorem recovers_below {bound n : Nat} (hn : n < bound) :
    Recovers (δ := δ) (below? bound) (.natural n) n := by
  intro d hd
  cases hd with
  | natural _ reads => simp [below?, reads, hn]

/-- Numbers of 16 bits are recovered. -/
theorem recovers_uint16 (n : UInt16) : Recovers (δ := δ) uint16? (.natural n.toNat) n := by
  intro d hd
  rw [uint16?, recovers_below n.toNat_lt d hd, Option.map_some]
  exact congrArg some UInt16.ofNat_toNat

/-- Numbers of 64 bits are recovered. -/
theorem recovers_uint64 (n : UInt64) : Recovers (δ := δ) uint64? (.natural n.toNat) n := by
  intro d hd
  rw [uint64?, recovers_below n.toNat_lt d hd, Option.map_some]
  exact congrArg some UInt64.ofNat_toNat

/-- What is written as a list is recovered item by item. -/
theorem recovers_list {read : δ → Option α} {write : α → Json} {values : List α}
    (hitems : ∀ a ∈ values, Recovers read (write a) a) :
    Recovers (list? read) (.array (values.map write)) values := by
  intro d hd
  cases hd with
  | @array _ ds _ _ reads shown =>
    rw [list?, reads, Option.bind_eq_bind, Option.bind_some]
    clear reads
    induction values generalizing ds with
    | nil =>
      obtain rfl := List.forall₂_nil_right_iff.mp shown
      rfl
    | cons a rest ih =>
      obtain ⟨ha, hrest⟩ := List.forall_mem_cons.mp hitems
      obtain ⟨e, es, he, hes, rfl⟩ := List.forall₂_cons_right_iff.mp shown
      simp [ha e he, ih hrest hes]

/-- Texts in a list are recovered. -/
theorem recovers_texts (texts : List String) :
    Recovers (δ := δ) (list? text?) (.array (texts.map .string)) texts :=
  recovers_list fun s _ => recovers_text s

/-- What is written as a map is recovered value by value, under the same keys. -/
theorem recovers_map {read : δ → Option β} {write : α → Json} {f : α → β} {m : SortedMap α}
    (hvalues : ∀ a ∈ m.values, Recovers read (write a) (f a)) :
    Recovers (map? read) (Hardware.mapToJson write m) (m.map f) := by
  intro d hd
  cases hd with
  | @object _ ds _ _ reads names shown =>
    have hentries : ds.mapM (fun entry => (read entry.2).map (entry.1, ·)) =
        some (m.map f).entries := by
      clear reads
      simp only [SortedMap.values, SortedMap.map] at hvalues ⊢
      generalize m.entries = entries at hvalues names shown ⊢
      induction entries generalizing ds with
      | nil =>
        obtain rfl := List.map_eq_nil_iff.mp names
        rfl
      | cons e rest ih =>
        obtain ⟨key, a⟩ := e
        obtain ⟨ha, hrest⟩ := List.forall_mem_cons.mp hvalues
        obtain _ | ⟨⟨name, value⟩, ds⟩ := ds
        · cases names
        · obtain ⟨rfl, hnames⟩ := List.cons.inj names
          obtain ⟨hvalue, hshown⟩ := List.forall₂_cons.mp shown
          simp [ha value hvalue, ih hrest hnames hshown]
    have hread : map? read d = (ds.mapM fun entry => (read entry.2).map (entry.1, ·)).bind
        fun entries => some (SortedMap.ofList entries) := by
      rw [map?, reads]
      rfl
    rw [hread, hentries, Option.bind_some, SortedMap.ofList_entries]

/-- A map is recovered if its values are. -/
theorem recovers_sameMap {read : δ → Option α} {write : α → Json} {m : SortedMap α}
    (hvalues : ∀ a ∈ m.values, Recovers read (write a) a) :
    Recovers (map? read) (Hardware.mapToJson write m) m := by
  have hsame : m.map id = m := by simp [SortedMap.map]
  simpa [hsame] using recovers_map (f := id) hvalues

end

/-! ### Fields -/

/-- The field of this name in a written object. -/
def field? (name : String) : Json → Option Json
  | .object fields => fields.lookup name
  | _ => none

/-- What is written is an object whose fields have different names. -/
def IsRecord (written : Json) : Prop :=
  ∃ fields, written = .object fields ∧ (fields.map Prod.fst).Nodup

/-- The fields of these names show those that are written, as far as there are any. -/
def Record.ShowsFields (r : Record δ) (names : List String) (written : Json) : Prop :=
  ∀ name ∈ names, Option.Rel Shows (r.find? name) (field? name written)

/-- A field of a document shows the field of that name. -/
theorem rel_lookup {ds : List (String × δ)} {fields : List (String × Json)}
    (hnames : ds.map Prod.fst = fields.map Prod.fst)
    (hshown : List.Forall₂ Shows (ds.map Prod.snd) (fields.map Prod.snd)) (name : String) :
    Option.Rel Shows (ds.lookup name) (fields.lookup name) := by
  induction ds generalizing fields with
  | nil =>
    obtain rfl := List.map_eq_nil_iff.mp hnames.symm
    exact .none
  | cons d ds ih =>
    obtain ⟨key, value⟩ := d
    obtain _ | ⟨⟨key', v⟩, fields⟩ := fields
    · cases hnames
    · obtain ⟨rfl, hrest⟩ := List.cons.inj hnames
      obtain ⟨hvalue, hmore⟩ := List.forall₂_cons.mp hshown
      rw [List.lookup_cons, List.lookup_cons]
      dsimp only
      cases name == key with
      | true => exact .some hvalue
      | false => exact ih hrest hmore

/-- Leaving out fields of other names leaves a field where it is. -/
theorem lookup_filter_contains {α : Type} {names : List String} {name : String}
    (hname : name ∈ names) (fields : List (String × α)) :
    (fields.filter fun field => names.contains field.1).lookup name = fields.lookup name := by
  induction fields with
  | nil => rfl
  | cons field fields ih =>
    obtain ⟨key, value⟩ := field
    by_cases hkey : name = key
    · subst hkey
      rw [List.filter_cons_of_pos (by simpa using hname), List.lookup_cons_self,
        List.lookup_cons_self]
    · have hother : (name == key) = false := by simpa using hkey
      rw [List.lookup_cons, hother, List.filter_cons]
      split
      · rw [List.lookup_cons, hother, ih]
      · rw [ih]

/-- A document that shows a record is read as one. -/
theorem exists_record? {d : δ} {written : Json} (hd : Shows d written)
    (hwritten : IsRecord written) (names : List String) :
    ∃ r, record? names d = some r ∧ r.ShowsFields names written := by
  obtain ⟨fields, rfl, hnodup⟩ := hwritten
  cases hd with
  | @object _ ds _ _ reads hnames shown =>
    have hknown : ((ds.filter fun field => names.contains field.1).map Prod.fst).Nodup :=
      (hnames ▸ hnodup).sublist (List.filter_sublist.map Prod.fst)
    refine ⟨⟨ds.filter fun field => names.contains field.1⟩, ?_, fun name hname => ?_⟩
    · simp only [record?, reads, hknown, if_true]
    · rw [Record.find?, lookup_filter_contains hname]
      exact rel_lookup hnames shown name

section

variable {α : Type} {r : Record δ} {names : List String} {written : Json} {name : String}
  {read : δ → Option α}

/-- A field that is not written is not there. -/
theorem Record.ShowsFields.find?_eq_none (hr : r.ShowsFields names written)
    (hname : name ∈ names) (hfield : field? name written = none) : r.find? name = none := by
  have hshown := hr name hname
  rw [hfield] at hshown
  cases hfind : r.find? name with
  | none => rfl
  | some d =>
    rw [hfind] at hshown
    cases hshown

/-- A field that is written is there. -/
theorem Record.ShowsFields.exists_find? (hr : r.ShowsFields names written)
    (hname : name ∈ names) {part : Json} (hfield : field? name written = some part) :
    ∃ d, r.find? name = some d ∧ Shows d part := by
  have hshown := hr name hname
  rw [hfield] at hshown
  cases hfind : r.find? name with
  | none =>
    rw [hfind] at hshown
    cases hshown
  | some d =>
    rw [hfind] at hshown
    cases hshown with
    | some hd => exact ⟨d, rfl, hd⟩

/-- A field that must be there is recovered. -/
theorem Record.ShowsFields.required? (hr : r.ShowsFields names written) (hname : name ∈ names)
    {part : Json} {a : α} (hfield : field? name written = some part)
    (hread : Recovers read part a) : r.required? name read = some a := by
  obtain ⟨d, hfind, hd⟩ := hr.exists_find? hname hfield
  rw [Record.required?, hfind, Option.bind_eq_bind, Option.bind_some, hread d hd]

/-- A text that must be there is recovered. -/
theorem Record.ShowsFields.requiredText? (hr : r.ShowsFields names written)
    (hname : name ∈ names) {text : String} (hfield : field? name written = some (.string text)) :
    r.required? name text? = some text :=
  hr.required? hname hfield (recovers_text text)

/-- A field that must be there and is not written cannot be read. -/
theorem Record.ShowsFields.required?_eq_none (hr : r.ShowsFields names written)
    (hname : name ∈ names) (hfield : field? name written = none) :
    r.required? name read = none := by
  rw [Record.required?, hr.find?_eq_none hname hfield, Option.bind_eq_bind, Option.bind_none]

/-- A field that is left out where there is no value is recovered. -/
theorem Record.ShowsFields.optional? (hr : r.ShowsFields names written) (hname : name ∈ names)
    {write : α → Json} {value : Option α} (hfield : field? name written = value.map write)
    (hread : ∀ a, Recovers read (write a) a) : r.optional? name read = some value := by
  cases value with
  | none => rw [Record.optional?, hr.find?_eq_none hname hfield]
  | some a =>
    obtain ⟨d, hfind, hd⟩ := hr.exists_find? hname hfield
    simp [Record.optional?, hfind, hd.present, hread a d hd]

/-- A field that is left out where it has its default is recovered. -/
theorem Record.ShowsFields.withDefault? (hr : r.ShowsFields names written)
    (hname : name ∈ names) {default a : α} (hmissing : field? name written = none → a = default)
    (hread : ∀ part, field? name written = some part → Recovers read part a) :
    r.withDefault? name default read = some a := by
  cases hfield : field? name written with
  | none => rw [Record.withDefault?, hr.find?_eq_none hname hfield, hmissing hfield]
  | some part =>
    obtain ⟨d, hfind, hd⟩ := hr.exists_find? hname hfield
    rw [Record.withDefault?, hfind]
    exact hread part hfield d hd

/-- A text that is left out where it is empty is recovered. -/
theorem Record.ShowsFields.defaultText? (hr : r.ShowsFields names written)
    (hname : name ∈ names) {value : String}
    (hfield : field? name written = if value ≠ "" then some (.string value) else none) :
    r.withDefault? name "" text? = some value := by
  refine hr.withDefault? hname (fun hmissing => ?_) (fun part hpart => ?_)
  · by_contra hvalue
    rw [hfield, if_pos hvalue] at hmissing
    cases hmissing
  · rw [hfield, Option.ite_none_right_eq_some, Option.some.injEq] at hpart
    obtain ⟨-, rfl⟩ := hpart
    exact recovers_text value

/-- A list that is left out where it is empty is recovered. -/
theorem Record.ShowsFields.defaultList? (hr : r.ShowsFields names written)
    (hname : name ∈ names) {values : List α} {write : α → Json}
    (hfield : field? name written =
      if values ≠ [] then some (.array (values.map write)) else none)
    (hread : ∀ a ∈ values, Recovers read (write a) a) :
    r.withDefault? name [] (list? read) = some values := by
  refine hr.withDefault? hname (fun hmissing => ?_) (fun part hpart => ?_)
  · by_contra hvalues
    rw [hfield, if_pos hvalues] at hmissing
    cases hmissing
  · rw [hfield, Option.ite_none_right_eq_some, Option.some.injEq] at hpart
    obtain ⟨-, rfl⟩ := hpart
    exact recovers_list hread

end

/-! ### Written fields -/

section

variable {α : Type}

/-- Nothing is found where nothing is written. -/
@[simp] theorem field?_nil (name : String) : field? name (.object []) = none := rfl

/-- The first field is found under its name. -/
@[simp] theorem field?_cons (name key : String) (value : Json) (fields : List (String × Json)) :
    field? name (.object ((key, value) :: fields)) =
      if name = key then some value else field? name (.object fields) := by
  by_cases hkey : name = key
  · rw [if_pos hkey, hkey, field?, List.lookup_cons_self]
  · rw [if_neg hkey, field?, List.lookup_cons, beq_eq_false_iff_ne.mpr hkey, field?]

/-- Fields are looked for in order. -/
@[simp] theorem field?_append (name : String) (fields more : List (String × Json)) :
    field? name (.object (fields ++ more)) =
      (field? name (.object fields)).or (field? name (.object more)) :=
  List.lookup_append

/-- A field that is left out where there is no value is found where there is one. -/
@[simp] theorem field?_optional (name key : String) (value : Option α) (write : α → Json) :
    field? name (.object (Json.optional key value write)) =
      if name = key then value.map write else none := by
  cases value with
  | none => simp [Json.optional]
  | some a => simp [Json.optional]

/-- A text field is found where the text is not empty. -/
@[simp] theorem field?_nonempty (name key value : String) :
    field? name (.object (Json.nonempty key value)) =
      if name = key ∧ value ≠ "" then some (.string value) else none := by
  by_cases hvalue : value = "" <;> simp [Json.nonempty, hvalue]

/-- A list field is found where the list is not empty. -/
@[simp] theorem field?_nonemptyList (name key : String) (values : List α) (write : α → Json) :
    field? name (.object (Json.nonemptyList key values write)) =
      if name = key ∧ values ≠ [] then some (.array (values.map write)) else none := by
  cases values <;> simp [Json.nonemptyList]

/-- Such a field has one name at most. -/
theorem names_optional (name : String) (value : Option α) (write : α → Json) :
    ((Json.optional name value write).map Prod.fst).Sublist [name] := by
  cases value <;> simp [Json.optional]

/-- Such a field has one name at most. -/
theorem names_nonempty (name value : String) :
    ((Json.nonempty name value).map Prod.fst).Sublist [name] := by
  unfold Json.nonempty
  split <;> simp

/-- Such a field has one name at most. -/
theorem names_nonemptyList (name : String) (values : List α) (write : α → Json) :
    ((Json.nonemptyList name values write).map Prod.fst).Sublist [name] := by
  cases values <;> simp [Json.nonemptyList]

/-- Fields one after another have their names one after another. -/
theorem names_append {fields more : List (String × Json)} {names others : List String}
    (hfields : (fields.map Prod.fst).Sublist names) (hmore : (more.map Prod.fst).Sublist others) :
    ((fields ++ more).map Prod.fst).Sublist (names ++ others) := by
  rw [List.map_append]
  exact hfields.append hmore

/-- Fields among different names make a record. -/
theorem isRecord_object {fields : List (String × Json)} {names : List String}
    (hfields : (fields.map Prod.fst).Sublist names) (hnames : names.Nodup) :
    IsRecord (.object fields) :=
  ⟨fields, rfl, hnames.sublist hfields⟩

end

/-! ### JSON files -/

section

variable {α : Type} {isText isName : String → Prop}

/-- The fields have names of one kind and hold texts of one kind. -/
def FieldsMadeOf (isText isName : String → Prop) (fields : List (String × Json)) : Prop :=
  ∀ field ∈ fields, isName field.1 ∧ field.2.MadeOf isText isName

/-- An object is made of its fields. -/
@[simp] theorem madeOf_object {fields : List (String × Json)} :
    (Json.object fields).MadeOf isText isName ↔ FieldsMadeOf isText isName fields := by
  constructor
  · intro hmade
    cases hmade with
    | object hnames hfields => exact fun field hin => ⟨hnames field hin, hfields field hin⟩
  · exact fun hmade => .object (fun field hin => (hmade field hin).1)
      fun field hin => (hmade field hin).2

/-- A field and more fields are made of all of them. -/
@[simp] theorem fieldsMadeOf_cons {name : String} {v : Json} {fields : List (String × Json)} :
    FieldsMadeOf isText isName ((name, v) :: fields) ↔
      (isName name ∧ v.MadeOf isText isName) ∧ FieldsMadeOf isText isName fields :=
  List.forall_mem_cons

/-- No fields hold nothing. -/
@[simp] theorem fieldsMadeOf_nil : FieldsMadeOf isText isName [] := List.forall_mem_nil _

/-- Fields one after another are made of all of them. -/
@[simp] theorem fieldsMadeOf_append {fields more : List (String × Json)} :
    FieldsMadeOf isText isName (fields ++ more) ↔
      FieldsMadeOf isText isName fields ∧ FieldsMadeOf isText isName more :=
  List.forall_mem_append

/-- A field that is left out where there is no value holds the value. -/
@[simp] theorem fieldsMadeOf_optional {name : String} {value : Option α} {write : α → Json} :
    FieldsMadeOf isText isName (Json.optional name value write) ↔
      ∀ a ∈ value, isName name ∧ (write a).MadeOf isText isName := by
  cases value <;> simp [Json.optional]

/-- A text field that is left out where the text is empty holds the text. -/
@[simp] theorem fieldsMadeOf_nonempty {name value : String} :
    FieldsMadeOf isText isName (Json.nonempty name value) ↔
      (value ≠ "" → isName name ∧ isText value) := by
  unfold Json.nonempty
  split <;> simp_all

/-- A list field that is left out where the list is empty holds the items. -/
@[simp] theorem fieldsMadeOf_nonemptyList {name : String} {values : List α} {write : α → Json} :
    FieldsMadeOf isText isName (Json.nonemptyList name values write) ↔
      (values ≠ [] → isName name ∧ ∀ a ∈ values, (write a).MadeOf isText isName) := by
  cases values <;> simp [Json.nonemptyList]

/-- A map is made of its keys and values. -/
@[simp] theorem madeOf_mapToJson {write : α → Json} {m : SortedMap α} :
    (Hardware.mapToJson write m).MadeOf isText isName ↔
      ∀ e ∈ m.entries, isName e.1 ∧ (write e.2).MadeOf isText isName := by
  rw [Hardware.mapToJson, madeOf_object, FieldsMadeOf, List.forall_mem_map]

end

/-- A value made of texts, numbers, lists and objects shows itself. -/
theorem shows_self {v : Json} (hplain : v.Plain) : Shows v v := by
  induction hplain with
  | natural n => exact .natural rfl rfl
  | string => exact .string rfl rfl rfl
  | array _ ih => exact .array rfl rfl (List.forall₂_same.mpr ih)
  | object _ _ ih =>
    refine .object rfl rfl rfl (List.forall₂_same.mpr fun v hv => ?_)
    obtain ⟨field, hfield, rfl⟩ := List.mem_map.mp hv
    exact ih field hfield

/-- What is recovered from every document is read from the text that it is written to. -/
theorem read_parse?_render {α : Type} {read : Json → Option α} {written : Json} {a : α}
    (hread : Recovers read written a) (hplain : written.Plain) :
    (Json.parse? (Json.render written)).bind read = some a := by
  rw [Json.parse?_render hplain, Option.bind_some]
  exact hread written (shows_self hplain)

end SitePlan.Document
