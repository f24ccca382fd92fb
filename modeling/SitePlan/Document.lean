import SitePlan.SortedMap

/-!
# Reading records from documents

Site files come in more than one notation, and the records in them are the same. A
notation says how texts, numbers, lists and fields are found in its values; the readers
of records are written once over that. A reader gives no value where the document does
not have the wanted shape.
-/

namespace SitePlan

/-- A notation whose values records are read from. -/
class Document (δ : Type) where
  /-- The value as text. -/
  text? : δ → Option String
  /-- The value as one word of a fixed choice. -/
  word? : δ → Option String
  /-- The value as a natural number. -/
  natural? : δ → Option Nat
  /-- The value as a list. -/
  items? : δ → Option (List δ)
  /-- The value as named fields, in the order of the document. -/
  fields? : δ → Option (List (String × δ))
  /-- The value as a record without names: the values of its first fields. -/
  positions? : δ → Option (List δ)
  /-- The value stands for the absence of one. -/
  isAbsent : δ → Bool

namespace Document

variable {δ α : Type} [Document δ]

/-- A natural number below a bound. -/
def below? (bound : Nat) (d : δ) : Option Nat := do
  let n ← natural? d
  if n < bound then some n else none

/-- A number of 8 bits. -/
def uint8? (d : δ) : Option UInt8 := (below? UInt8.size d).map Nat.toUInt8

/-- A number of 16 bits. -/
def uint16? (d : δ) : Option UInt16 := (below? UInt16.size d).map Nat.toUInt16

/-- A number of 32 bits. -/
def uint32? (d : δ) : Option UInt32 := (below? UInt32.size d).map Nat.toUInt32

/-- A number of 64 bits. -/
def uint64? (d : δ) : Option UInt64 := (below? UInt64.size d).map Nat.toUInt64

/-- A count, at most what 64 bits hold. -/
def count? (d : δ) : Option Nat := below? UInt64.size d

/-- A list of values that are read alike. -/
def list? (read : δ → Option α) (d : δ) : Option (List α) := do
  (← items? d).mapM read

/-- Values of one kind under arbitrary keys. The last of several equal keys stays. -/
def map? (read : δ → Option α) (d : δ) : Option (SortedMap α) := do
  let entries ← (← fields? d).mapM fun (key, value) => (read value).map (key, ·)
  return SortedMap.ofList entries

/-- The fields of a record that are there, found by name. -/
structure Record (δ : Type) where
  /-- Names and values. -/
  fields : List (String × δ)

/-- The fields of a record with these names. Other fields are ignored, but no known field
may occur twice. -/
def record? (names : List String) (d : δ) : Option (Record δ) :=
  match fields? d with
  | some fields =>
    let known := fields.filter fun field => names.contains field.1
    if (known.map Prod.fst).Nodup then some ⟨known⟩ else none
  | none =>
    match positions? d with
    | some values => if values.length ≤ names.length then some ⟨names.zip values⟩ else none
    | none => none

namespace Record

/-- The value of a field that is there. -/
def find? (r : Record δ) (name : String) : Option δ := r.fields.lookup name

/-- A field that must be there. -/
def required? (r : Record δ) (name : String) (read : δ → Option α) : Option α := do
  read (← r.find? name)

/-- A field with a value to take where the field is missing. -/
def withDefault? (r : Record δ) (name : String) (value : α) (read : δ → Option α) :
    Option α :=
  match r.find? name with
  | none => some value
  | some d => read d

/-- A field that may be missing or absent. -/
def optional? (r : Record δ) (name : String) (read : δ → Option α) : Option (Option α) :=
  match r.find? name with
  | none => some none
  | some d => if isAbsent d then some none else (read d).map some

end Record

end Document

end SitePlan
