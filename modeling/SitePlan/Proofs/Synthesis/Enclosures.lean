import SitePlan.Proofs.Synthesis.RackNodes

/-!
# Enclosures by name

Rows refer to their enclosures by name, and the height of an enclosure is said by the last row of
this name, wherever it stands. Rows that name no enclosure and that no row names can be left out,
and if no two rows are of one name, the order of rows does not matter.
-/

namespace SitePlan.Synthesis

open Cabling Hardware Outcome

/-- Some row names an enclosure of this name. -/
def isNamed (rows : List Row) (key : String) : Bool :=
  rows.any fun row => row.hasParent && row.parentKey = key

/-- An enclosure is named by the first row or by another one. -/
theorem isNamed_cons (row : Row) (rest : List Row) (key : String) :
    isNamed (row :: rest) key = ((row.hasParent && row.parentKey = key) || isNamed rest key) :=
  rfl

/-- The height of the device that has this name, if there is one and its row says the height. -/
def heightOf? (byName : SortedMap Row) (key : String) : Option UInt32 :=
  (byName.get? key).bind fun row => row.position.toOption.map Position.height

section Enclosures

variable {byName : SortedMap Row} {known later : SortedMap UInt32} {row : Row}
  {rest rows : List Row}

/-- A row adds the enclosure that it names to those already known, if it is new. -/
theorem enclosuresInto_cons :
    enclosuresInto byName known (row :: rest) = .ok later ↔
      if row.hasParent = true ∧ known.contains row.parentKey = false then
        ∃ height, heightOf? byName row.parentKey = some height ∧
          enclosuresInto byName (known.insert row.parentKey height) rest = .ok later
      else enclosuresInto byName known rest = .ok later := by
  have hcond : (row.hasParent && !known.contains row.parentKey) = true ↔
      row.hasParent = true ∧ known.contains row.parentKey = false := by simp
  rw [enclosuresInto]
  by_cases hnew : row.hasParent = true ∧ known.contains row.parentKey = false
  · rw [if_pos (hcond.mpr hnew), if_pos hnew, heightOf?]
    cases byName.get? row.parentKey with
    | none => simp
    | some parent =>
      cases hposition : parent.position with
      | error fault => simp [hposition, Except.toOption]
      | ok position => simp [hposition, Except.toOption]
  · rw [if_neg (hcond.not.mpr hnew), if_neg hnew]

/-- Rows make the enclosures that they name known, besides those that are known already. -/
@[mk_iff]
structure MakesKnown (byName : SortedMap Row) (known : SortedMap UInt32) (rows : List Row)
    (later : SortedMap UInt32) : Prop where
  /-- The height of each enclosure that is named is known already, or its own row says it. -/
  found : ∀ key, isNamed rows key = true →
    ((known.get? key).or (heightOf? byName key)).isSome = true
  /-- Then just these heights are known. -/
  get?_eq : ∀ key, later.get? key =
    (known.get? key).or (if isNamed rows key = true then heightOf? byName key else none)

/-- A row that names a new enclosure makes it known at the height that its own row says. -/
theorem makesKnown_cons_new (hparent : row.hasParent = true)
    (hnone : known.get? row.parentKey = none) :
    MakesKnown byName known (row :: rest) later ↔
      ∃ height, heightOf? byName row.parentKey = some height ∧
        MakesKnown byName (known.insert row.parentKey height) rest later := by
  cases hheight : heightOf? byName row.parentKey with
  | none =>
    refine iff_of_false (fun hmakes => ?_) (by simp)
    have hsome := hmakes.found row.parentKey (by simp [isNamed_cons, hparent])
    simp [hnone, hheight] at hsome
  | some height =>
    simp only [Option.some.injEq, exists_eq_left', makesKnown_iff, ← forall_and]
    refine forall_congr' fun key => ?_
    by_cases hkey : key = row.parentKey
    · simp [hkey, hheight, isNamed_cons, hparent, hnone, SortedMap.get?_insert_self]
    · simp [SortedMap.get?_insert_of_ne _ _ hkey, isNamed_cons, Ne.symm hkey]

/-- A row that names no enclosure or a known one makes nothing known. -/
theorem makesKnown_cons_old
    (hknown : row.hasParent = true → (known.get? row.parentKey).isSome = true) :
    MakesKnown byName known (row :: rest) later ↔ MakesKnown byName known rest later := by
  simp only [makesKnown_iff, ← forall_and]
  refine forall_congr' fun key => ?_
  by_cases hkey : row.hasParent = true ∧ row.parentKey = key
  · obtain ⟨height, hheight⟩ := Option.isSome_iff_exists.mp (hknown hkey.1)
    simp [← hkey.2, hheight]
  · have hother : (row.hasParent && row.parentKey = key) = false := by simpa using hkey
    rw [isNamed_cons, hother, Bool.false_or]

/-- The enclosures that rows name become known, each at the height that its own row says. -/
theorem enclosuresInto_eq_ok :
    enclosuresInto byName known rows = .ok later ↔ MakesKnown byName known rows later := by
  induction rows generalizing known with
  | nil =>
    simp only [enclosuresInto, Except.ok.injEq, makesKnown_iff, isNamed, List.any_nil,
      Bool.false_eq_true, false_implies, implies_true, if_false, Option.or_none, true_and]
    exact ⟨fun h _ => h ▸ rfl, fun h => (SortedMap.eq_of_get? h).symm⟩
  | cons row rest ih =>
    rw [enclosuresInto_cons]
    split_ifs with hnew
    · rw [makesKnown_cons_new hnew.1 (by simpa [SortedMap.contains] using hnew.2)]
      simp only [ih]
    · rw [ih, makesKnown_cons_old fun hparent => ?_]
      simpa [hparent, SortedMap.contains, Option.isSome_iff_ne_none] using hnew

end Enclosures

/-- The order of rows does not matter to the enclosures that they name, if no two rows are of
one name. -/
theorem enclosures_perm {rows rows' : List Row} (hperm : rows.Perm rows')
    (hnames : (rows.map Row.key).Nodup) {known : SortedMap UInt32} :
    enclosures rows = .ok known ↔ enclosures rows' = .ok known := by
  have hbyName : SortedMap.ofList (rows.map fun row => (row.key, row)) =
      SortedMap.ofList (rows'.map fun row => (row.key, row)) := by
    have hkeys : ∀ rows : List Row, (rows.map fun row => (row.key, row)).map Prod.fst =
        rows.map Row.key := fun rows => by rw [List.map_map]; rfl
    have hnames' : (rows'.map Row.key).Nodup := (hperm.map Row.key).nodup_iff.mp hnames
    refine SortedMap.eq_of_perm ?_
    exact ((SortedMap.perm_entries_ofList (by rwa [hkeys])).trans (hperm.map _)).trans
      (SortedMap.perm_entries_ofList (by rwa [hkeys])).symm
  have hnamed : isNamed rows = isNamed rows' := funext fun key => hperm.any_eq
  rw [enclosures, enclosures, hbyName, enclosuresInto_eq_ok, enclosuresInto_eq_ok, makesKnown_iff,
    makesKnown_iff, hnamed]

/-! ### Look-ups -/

/-- The last row of this name. -/
def lastNamed? (rows : List Row) (key : String) : Option Row :=
  rows.reverse.find? fun row => row.key = key

/-- Of several rows of one name the last one is found. -/
theorem get?_rowsByName (rows : List Row) (key : String) :
    (SortedMap.ofList (rows.map fun row => (row.key, row))).get? key = lastNamed? rows key := by
  rw [SortedMap.get?_ofList, ← List.map_reverse, lastNamed?]
  induction rows.reverse with
  | nil => rfl
  | cons row rest ih =>
    rw [List.map_cons, List.lookup_cons, List.find?_cons, ih]
    by_cases hkey : row.key = key
    · simp [hkey]
    · have hother : (key == row.key) = false := by simpa using Ne.symm hkey
      simp [hkey, hother]

/-- Only the rows that are named are looked up. -/
theorem enclosuresInto_congr {byName byName' : SortedMap Row} {known : SortedMap UInt32}
    {rows : List Row}
    (hnamed : ∀ key, isNamed rows key = true → byName.get? key = byName'.get? key) :
    enclosuresInto byName known rows = enclosuresInto byName' known rows := by
  induction rows generalizing known with
  | nil => rfl
  | cons row rest ih =>
    have hrest : ∀ key, isNamed rest key = true → byName.get? key = byName'.get? key :=
      fun key hkey => hnamed key (by rw [isNamed_cons, hkey, Bool.or_true])
    unfold enclosuresInto
    split
    · next hnew =>
      have hparent : row.hasParent = true := (Bool.and_eq_true_iff.mp hnew).1
      rw [hnamed row.parentKey (by simp [isNamed_cons, hparent])]
      simp only [ih hrest]
    · exact ih hrest

/-- Rows that name no enclosure make none known. -/
theorem enclosuresInto_filter {byName : SortedMap Row} {known : SortedMap UInt32}
    {rows : List Row} {keep : Row → Bool}
    (hparents : ∀ row ∈ rows, row.hasParent = true → keep row = true) :
    enclosuresInto byName known (rows.filter keep) = enclosuresInto byName known rows := by
  induction rows generalizing known with
  | nil => rfl
  | cons row rest ih =>
    rw [List.forall_mem_cons] at hparents
    obtain ⟨hparent, hparents⟩ := hparents
    by_cases hkeep : keep row = true
    · rw [List.filter_cons_of_pos hkeep]
      unfold enclosuresInto
      simp only [ih hparents]
    · have hnone : row.hasParent = false := Bool.eq_false_iff.mpr fun h => hkeep (hparent h)
      rw [List.filter_cons_of_neg hkeep, ih hparents]
      simp [enclosuresInto, hnone]

/-- Rows of other names do not matter to the last row of a name. -/
theorem lastNamed?_filter {rows : List Row} {key : String} {keep : Row → Bool}
    (hkeep : ∀ row ∈ rows, row.key = key → keep row = true) :
    lastNamed? (rows.filter keep) key = lastNamed? rows key := by
  rw [lastNamed?, lastNamed?, ← List.filter_reverse, ← List.head?_filter, ← List.head?_filter,
    List.filter_filter]
  refine congrArg List.head? (List.filter_congr fun row hrow => ?_)
  have hkept := hkeep row (List.mem_reverse.mp hrow)
  by_cases hkey : row.key = key
  · simp [hkey, hkept hkey]
  · simp [hkey]

/-- Rows that name no enclosure and that no row names do not matter to enclosures. -/
theorem enclosures_filter {rows : List Row} {keep : Row → Bool}
    (hparents : ∀ row ∈ rows, row.hasParent = true → keep row = true)
    (hnamed : ∀ row ∈ rows, isNamedEnclosure rows row = true → keep row = true) :
    enclosures (rows.filter keep) = enclosures rows := by
  unfold enclosures
  rw [enclosuresInto_filter hparents]
  refine enclosuresInto_congr fun key hkey => ?_
  rw [get?_rowsByName, get?_rowsByName]
  refine lastNamed?_filter fun row hrow hname => hnamed row hrow ?_
  subst hname
  exact hkey

end SitePlan.Synthesis
