import SitePlan.Proofs.Switch.Names
import SitePlan.Proofs.Synthesis.SwitchRecords
import SitePlan.Switch.Listing

/-!
# What is read from a list of switches

A text is read line by line. The lines that are neither blank nor headings list one switch each,
in their order, with locations that suit the roles and are spelled canonically; such switches get
records unless their places are at fault. The first line that cannot be used ends the reading, and
the fault names its number.
-/

namespace SitePlan.Switch

open Outcome

/-! ### Words for roles and brands -/

/-- What is found by a word is called by it, and if nothing is found then nothing is called so. -/
theorem lookup_spec {α ε : Type} {key : α → String} {l : List α} (hcover : ∀ a, a ∈ l)
    {word : String} {result : Except ε α}
    (hsome : ∀ a, l.find? (fun a => key a = word) = some a → result = .ok a)
    (hnone : l.find? (fun a => key a = word) = none → ∃ fault, result = .error fault) :
    (∀ a, result = .ok a → key a = word) ∧ FailsOnly (fun _ => ∀ a, key a ≠ word) result := by
  cases hfound : l.find? fun a => key a = word with
  | some found =>
    rw [hsome found hfound]
    refine ⟨?_, failsOnly_ok found⟩
    rintro _ ⟨⟩
    simpa using List.find?_some hfound
  | none =>
    obtain ⟨fault, rfl⟩ := hnone hfound
    refine ⟨fun _ hok => (nomatch hok), failsOnly_error fun a => ?_⟩
    simpa using List.find?_eq_none.mp hfound a (hcover a)

/-- A word is read as the role that has this name, but for letter case and the space around the
word. -/
theorem Role.parse_spec (word : String) :
    (∀ role, Role.parse word = .ok role →
        role.name.toLower = (Text.trimText word).toLower) ∧
      FailsOnly (fun _ => ∀ role : Role, role.name.toLower ≠ (Text.trimText word).toLower)
        (Role.parse word) := by
  have hcover : ∀ role, role ∈ Role.all := fun role => by cases role <;> decide
  refine lookup_spec hcover (fun role hfound => ?_) fun hfound => ⟨.unknownRole word, ?_⟩
  · rw [Role.parse, hfound]
  · rw [Role.parse, hfound]

/-- A word is read as the brand that has this name, but for letter case and the space around the
word. -/
theorem Brand.parse_spec (word : String) :
    (∀ brand, Brand.parse word = .ok brand →
        brand.name.toLower = (Text.trimText word).toLower) ∧
      FailsOnly (fun _ => ∀ brand : Brand, brand.name.toLower ≠ (Text.trimText word).toLower)
        (Brand.parse word) := by
  have hcover : ∀ brand, brand ∈ Brand.all := fun brand => by cases brand <;> decide
  refine lookup_spec hcover (fun brand hfound => ?_) fun hfound => ⟨.unknownBrand word, ?_⟩
  · rw [Brand.parse, hfound]
  · rw [Brand.parse, hfound]

/-- Letter case does not make two roles one. -/
theorem Role.toLower_name_inj {a b : Role} : a.name.toLower = b.name.toLower ↔ a = b := by
  cases a <;> cases b <;> decide +kernel

/-- A switch whose location does not suit its role has one of no kind that the role allows. -/
theorem failsOnly_validate (s : Switch) :
    FailsOnly (fun _ => ∀ kind ∈ s.role.allowedKinds, Xname.kind? s.xname ≠ some kind)
      s.validate := by
  unfold validate
  split
  · next actual hactual =>
    split
    · exact failsOnly_ok ()
    · next hother =>
      refine failsOnly_error ?_
      rintro kind hallowed hkind
      obtain rfl := Option.some.inj (hactual.symm.trans hkind)
      exact hother hallowed
  · next hnone =>
    refine failsOnly_error ?_
    rintro kind _ hkind
    cases hnone.symm.trans hkind

namespace Listing

/-! ### The columns of a line -/

/-- The text in a column of a line without the space around it, empty if the line does not have
the column. -/
def column (line : List Char) (i : Nat) : String :=
  Text.trimText (String.ofList ((line.splitOn ',').getD i []))

/-- How many columns a line has. -/
def width (line : List Char) : Nat := (line.splitOn ',').length

/-- There is no white space around the text in a column. -/
theorem trimmed_column (line : List Char) (i : Nat) : Text.Trimmed (column line i).toList := by
  rw [column, Text.trimText, String.toList_ofList]
  exact Text.trimmed_trim _

/-- Trimming leaves the text in a column alone. -/
@[simp] theorem trimText_column (line : List Char) (i : Nat) :
    Text.trimText (column line i) = column line i := by
  rw [Text.trimText, (trimmed_column line i).trim_eq_self, String.ofList_toList]

/-- The columns are read in their order. -/
theorem getD_columns (line : List Char) (i : Nat) : (columns line).getD i "" = column line i := by
  rw [columns, column, Text.split_eq_splitOn, List.getD_eq_getElem?_getD, List.getElem?_map,
    List.getD_eq_getElem?_getD]
  cases (line.splitOn ',')[i]? with
  | none => rfl
  | some piece => simp [Text.trimText]

/-- All columns are read. -/
theorem length_columns (line : List Char) : (columns line).length = width line := by
  rw [columns, List.length_map, Text.split_eq_splitOn, width]

/-- Columns of the right number list a switch, and those that are missing are empty. -/
theorem readColumns_eq (cols : List String) :
    readColumns cols =
      if 3 ≤ cols.length ∧ cols.length ≤ 5 then
        switch (cols.getD 0 "") (cols.getD 1 "") (cols.getD 2 "") (cols.getD 3 "") (cols.getD 4 "")
      else .error (.columns cols.length) :=
  match cols with
  | [] | [_] | [_, _] => rfl
  | [_, _, _] | [_, _, _, _] | [_, _, _, _, _] => rfl
  | _ :: _ :: _ :: _ :: _ :: _ :: _ => by simp [readColumns]

/-- A line of the right width is read as a switch, column by column. -/
theorem readColumns_columns (line : List Char) :
    readColumns (columns line) =
      if 3 ≤ width line ∧ width line ≤ 5 then
        switch (column line 0) (column line 1) (column line 2) (column line 3) (column line 4)
      else .error (.columns (width line)) := by
  rw [readColumns_eq]
  simp only [getD_columns, length_columns]

/-! ### Lines that list switches -/

/-- The line has nothing but commas and white space. -/
def IsBlank (line : List Char) : Prop := ∀ c ∈ line, c = ',' ∨ Text.isBlank c = true

/-- The line has the first column of a heading, in capital or small letters. -/
def IsHeading (line : List Char) : Prop := (column line 0).toLower = "Switch Xname".toLower

/-- The line is to list a switch. -/
def IsEntry (line : List Char) : Prop := ¬IsBlank line ∧ ¬IsHeading line

instance : DecidablePred IsEntry := fun line =>
  inferInstanceAs (Decidable (¬(∀ c ∈ line, c = ',' ∨ Text.isBlank c = true) ∧
    ¬((column line 0).toLower = "Switch Xname".toLower)))

/-- The lines that are left out are those that are blank or headings. -/
theorem isSkipped_columns (line : List Char) :
    isSkipped (columns line) = !decide (IsEntry line) := by
  have hblank : (columns line).all (· = "") = true ↔ IsBlank line := by
    rw [IsBlank, ← Text.forall_mem_split_iff]
    simp [columns, Text.trim_eq_nil_iff]
  have hheading : (columns line).head?.any (·.toLower = heading) = true ↔ IsHeading line := by
    obtain ⟨first, rest, hcolumns⟩ : ∃ first rest, columns line = first :: rest :=
      List.exists_cons_of_ne_nil (by simp [columns, Text.split_ne_nil])
    have hlower : "Switch Xname".toLower = heading := by decide +kernel
    simp [IsHeading, ← getD_columns, hcolumns, hlower]
  rw [Bool.eq_iff_iff, isSkipped, Bool.or_eq_true, hblank, hheading]
  rw [Bool.not_eq_true', decide_eq_false_iff_not, IsEntry, not_and_or, not_not, not_not]

/-- The line cannot be used. -/
inductive Faulty (line : List Char) : Prop
  /-- It has too few or too many columns. -/
  | width (hwidth : width line < 3 ∨ 5 < width line)
  /-- It names no role. -/
  | role (hnone : ∀ role : Role, role.name.toLower ≠ (column line 1).toLower)
  /-- It names no brand. -/
  | brand (hnone : ∀ brand : Brand, brand.name.toLower ≠ (column line 2).toLower)
  /-- It has something else where the address belongs. -/
  | address (hsome : column line 4 ≠ "") (hnone : Ipv4.parse? (column line 4) = none)
  /-- It has a location that the role does not allow. -/
  | location (role : Role) (hrole : role.name.toLower = (column line 1).toLower)
      (hother : ∀ kind ∈ role.allowedKinds,
        Xname.kind? (Xname.normalize (column line 0)) ≠ some kind)

/-- The line lists the switch: its columns say what is known of the switch, and the location suits
the role. -/
structure Lists (line : List Char) (s : Switch) : Prop where
  width : 3 ≤ width line ∧ width line ≤ 5
  xname : s.xname = Xname.normalize (column line 0)
  role : s.role.name.toLower = (column line 1).toLower
  brand : s.brand.name.toLower = (column line 2).toLower
  model : s.model = column line 3
  address : s.managementAddress =
    if column line 4 = "" then none else Ipv4.parse? (column line 4)
  addressRead : column line 4 ≠ "" → s.managementAddress.isSome
  suits : s.validate = .ok ()

/-- A line that lists a switch can be used. -/
theorem Lists.not_faulty {line : List Char} {s : Switch} (h : Lists line s) : ¬Faulty line := by
  rintro (hwidth | hnone | hnone | ⟨hsome, hnone⟩ | ⟨role, hrole, hother⟩)
  · have := h.width
    omega
  · exact hnone s.role h.role
  · exact hnone s.brand h.brand
  · have hread := h.addressRead hsome
    rw [h.address, if_neg hsome, hnone] at hread
    cases hread
  · obtain rfl : role = s.role := Role.toLower_name_inj.mp (hrole.trans h.role.symm)
    obtain ⟨kind, hallowed, hkind⟩ := Synthesis.kind?_of_validate h.suits
    exact hother kind hallowed (h.xname ▸ hkind)

/-- The location of a listed switch is spelled canonically. -/
theorem Lists.normalize_xname {line : List Char} {s : Switch} (h : Lists line s) :
    Xname.normalize s.xname = s.xname := by
  rw [h.xname, Xname.normalize_normalize]

/-- Host names are not listed. -/
theorem Lists.withName {line : List Char} {s : Switch} (h : Lists line s) (name : String) :
    Lists line { s with hostName := name } :=
  ⟨h.width, h.xname, h.role, h.brand, h.model, h.address, h.addressRead, h.suits⟩

/-! ### Reading a line -/

/-- A column that is read as an address is one or is empty. -/
theorem readAddress_eq_ok {written : String} {ip : Option Ipv4}
    (hok : readAddress written = .ok ip) :
    ip = (if written = "" then none else Ipv4.parse? written) ∧ (written ≠ "" → ip.isSome) := by
  unfold readAddress at hok
  split at hok
  · next hempty =>
    cases hok
    exact ⟨(if_pos hempty).symm, fun hsome => absurd hempty hsome⟩
  · next hsome =>
    split at hok
    · next found hfound =>
      cases hok
      exact ⟨by rw [if_neg hsome, hfound], fun _ => rfl⟩
    · cases hok

/-- A column that is not read as an address has something else. -/
theorem failsOnly_readAddress (written : String) :
    FailsOnly (fun _ => written ≠ "" ∧ Ipv4.parse? written = none) (readAddress written) := by
  unfold readAddress
  split
  · exact failsOnly_ok none
  · next hsome =>
    split
    · exact failsOnly_ok _
    · next hnone => exact failsOnly_error ⟨hsome, hnone⟩

/-- The switch that is read from a line is the one that the line lists. -/
theorem lists_of_readColumns {line : List Char} {s : Switch}
    (hok : readColumns (columns line) = .ok s) : Lists line s := by
  rw [readColumns_columns] at hok
  split at hok
  · next hwidth =>
    obtain ⟨role, hrole, hok⟩ := bind_eq_ok.mp hok
    obtain ⟨brand, hbrand, hok⟩ := bind_eq_ok.mp hok
    obtain ⟨ip, hip, hok⟩ := bind_eq_ok.mp hok
    obtain ⟨_, hsuits, hok⟩ := bind_eq_ok.mp hok
    obtain rfl := pure_eq_ok.mp hok
    have hrole := (Role.parse_spec _).1 _ (mapError_eq_ok.mp hrole)
    have hbrand := (Brand.parse_spec _).1 _ (mapError_eq_ok.mp hbrand)
    obtain ⟨haddress, hread⟩ := readAddress_eq_ok hip
    exact {
      width := hwidth
      xname := Xname.normalize_lowerText (trimmed_column line 0)
      role := hrole.trans (congrArg String.toLower (trimText_column line 1))
      brand := hbrand.trans (congrArg String.toLower (trimText_column line 2))
      model := rfl
      address := haddress
      addressRead := hread
      suits := mapError_eq_ok.mp hsuits }
  · cases hok

/-- A line from which no switch is read cannot be used. -/
theorem failsOnly_readColumns (line : List Char) :
    FailsOnly (fun _ => Faulty line) (readColumns (columns line)) := by
  rw [readColumns_columns]
  split
  · refine FailsOnly.bind ?_ fun role hrole => ?_
    · refine (Role.parse_spec _).2.mapError fun _ hnone => .role ?_
      rwa [trimText_column] at hnone
    refine FailsOnly.bind ?_ fun brand _ => ?_
    · refine (Brand.parse_spec _).2.mapError fun _ hnone => .brand ?_
      rwa [trimText_column] at hnone
    refine FailsOnly.bind ?_ fun ip _ => ?_
    · exact (failsOnly_readAddress _).mono fun _ ⟨hsome, hnone⟩ => .address hsome hnone
    refine FailsOnly.bind ?_ fun _ _ => failsOnly_ok _
    refine (failsOnly_validate _).mapError fun _ hother => .location role ?_ ?_
    · have hname := (Role.parse_spec _).1 _ (mapError_eq_ok.mp hrole)
      rwa [trimText_column] at hname
    · rw [← Xname.normalize_lowerText (trimmed_column line 0)]
      exact hother
  · next hwidth => exact failsOnly_error (.width (by omega))

/-! ### Reading lines -/

/-- The line is to list a switch, and cannot be used. -/
def Unusable (line : List Char) : Prop := IsEntry line ∧ Faulty line

/-- What reading lines comes to: one switch for each line that is to list one, or a fault of the
first line that cannot be used, with its number. -/
inductive Reads (number : Nat) : List (List Char) → Except Error (List Switch) → Prop
  | all {lines : List (List Char)} {switches : List Switch}
      (hnone : ∀ line ∈ lines, ¬Unusable line)
      (hall : List.Forall₂ Lists (lines.filter (IsEntry ·)) switches) :
      Reads number lines (.ok switches)
  | first {before after : List (List Char)} {line : List Char} (fault : LineError)
      (hbefore : ∀ earlier ∈ before, ¬Unusable earlier) (hline : Unusable line) :
      Reads number (before ++ line :: after) (.error ⟨number + before.length, fault⟩)

/-- A line that lists no switch only counts. -/
theorem Reads.skip {number : Nat} {line : List Char} {rest : List (List Char)}
    {outcome : Except Error (List Switch)} (hline : ¬IsEntry line)
    (h : Reads (number + 1) rest outcome) : Reads number (line :: rest) outcome := by
  have husable : ¬Unusable line := fun hunusable => hline hunusable.1
  cases h with
  | all hnone hall =>
    refine .all (List.forall_mem_cons.mpr ⟨husable, hnone⟩) ?_
    rwa [List.filter_cons_of_neg (by simpa using hline)]
  | @first before after other fault hbefore hother =>
    rw [Nat.add_right_comm]
    exact .first fault (List.forall_mem_cons.mpr ⟨husable, hbefore⟩) hother

/-- A line that lists a switch puts it in front of those that follow. -/
theorem Reads.cons {number : Nat} {line : List Char} {rest : List (List Char)} {s : Switch}
    {outcome : Except Error (List Switch)} (hline : IsEntry line) (hlists : Lists line s)
    (h : Reads (number + 1) rest outcome) :
    Reads number (line :: rest) (outcome.map (s :: ·)) := by
  have husable : ¬Unusable line := fun hunusable => hlists.not_faulty hunusable.2
  cases h with
  | all hnone hall =>
    refine .all (List.forall_mem_cons.mpr ⟨husable, hnone⟩) ?_
    rw [List.filter_cons_of_pos (by simpa using hline)]
    exact .cons hlists hall
  | @first before after other fault hbefore hother =>
    rw [Nat.add_right_comm]
    exact .first fault (List.forall_mem_cons.mpr ⟨husable, hbefore⟩) hother

/-- Where switches are read, each line that is to list one does, and can be used. -/
theorem Reads.of_ok {number : Nat} {lines : List (List Char)} {switches : List Switch}
    (h : Reads number lines (.ok switches)) :
    (∀ line ∈ lines, ¬Unusable line) ∧
      List.Forall₂ Lists (lines.filter (IsEntry ·)) switches := by
  cases h with
  | all hnone hall => exact ⟨hnone, hall⟩

/-- Where a line is at fault, it is the first that cannot be used. -/
theorem Reads.of_error {number : Nat} {lines : List (List Char)} {e : Error}
    (h : Reads number lines (.error e)) :
    ∃ before line after, lines = before ++ line :: after ∧
      (∀ earlier ∈ before, ¬Unusable earlier) ∧ Unusable line ∧
      e.line = number + before.length := by
  cases h with
  | @first before after line fault hbefore hline =>
    exact ⟨before, line, after, rfl, hbefore, hline, rfl⟩

/-- Lines are read to the end or up to the first that cannot be used. -/
theorem reads_readLines (number : Nat) (lines : List (List Char)) :
    Reads number lines (readLines number lines) := by
  -- The number goes up with each line, also with those that are left out.
  induction lines generalizing number with
  | nil => exact .all (by simp) .nil
  | cons line rest ih =>
    have hrest := ih (number + 1)
    rw [readLines, isSkipped_columns]
    by_cases hline : IsEntry line
    · rw [if_neg (by simpa using hline)]
      cases hread : readColumns (columns line) with
      | error fault =>
        exact @Reads.first number [] rest line fault (by simp)
          ⟨hline, failsOnly_readColumns line fault hread⟩
      | ok s =>
        have hcons := hrest.cons hline (lists_of_readColumns hread)
        cases hmore : readLines (number + 1) rest with
        | error fault => rwa [hmore] at hcons
        | ok switches => rwa [hmore] at hcons
    · rw [if_pos (by simpa using hline)]
      exact hrest.skip hline

/-! ### Reading a text -/

/-- The lines of a text. What follows the last line break is one of them, be it empty. -/
def textLines (text : String) : List (List Char) := text.toList.splitOn '\n'

/-- An empty line at the end does not matter. -/
theorem readLines_append_nil (number : Nat) (lines : List (List Char)) :
    readLines number (lines ++ [[]]) = readLines number lines := by
  induction lines generalizing number with
  | nil =>
    have hskipped : isSkipped (columns []) = true := by decide +kernel
    simp [readLines, hskipped]
  | cons line rest ih => simp only [List.cons_append, readLines, ih]

/-- It does not matter whether an empty line at the end is one. -/
theorem readLines_lines (number : Nat) (text : String) :
    readLines number (Text.lines text.toList) = readLines number (textLines text) := by
  rw [textLines, ← Text.split_eq_splitOn, Text.lines]
  split
  · next hlast =>
    obtain ⟨before, hbefore⟩ := List.getLast?_eq_some_iff.mp hlast
    rw [hbefore, List.dropLast_concat, readLines_append_nil]
  · rfl

/-- The fault in words begins with this number of a line. -/
def Error.Names (e : Error) (number : Nat) : Prop :=
  ∃ first ∈ e.causes.head?,
    first = s!"Line {number}" ∨ ∃ detail, first = s!"Line {number}: " ++ detail

/-- The fault in words begins with the number of the line. -/
theorem Error.names_line (e : Error) : e.Names e.line := by
  obtain ⟨line, fault⟩ := e
  cases fault with
  | columns found =>
    refine ⟨_, rfl, .inr ⟨"expected 3 to 5 columns (Switch Xname,Type,Brand,Model,IP), found " ++
      toString found, ?_⟩⟩
    simp [← String.toList_inj, toString]
  | mgmtSwitch fault => exact ⟨_, rfl, .inl rfl⟩
  | address written =>
    refine ⟨_, rfl, .inr ⟨"invalid management IP " ++ Text.quoted written, ?_⟩⟩
    simp [← String.toList_inj, toString]

/-- The switches that a text lists. -/
structure IsReading (text : String) (switches : List Switch) : Prop where
  /-- Each line that is to list a switch lists one, in the order of the lines. -/
  listed : List.Forall₂ Lists ((textLines text).filter (IsEntry ·)) switches
  /-- The locations are spelled canonically. -/
  canonical : ∀ s ∈ switches, Xname.normalize s.xname = s.xname
  /-- The locations suit the roles. -/
  suits : ∀ s ∈ switches, s.validate = .ok ()
  /-- Every switch is called by its role and its number among the switches of this role. -/
  named : ∀ before s after, switches = before ++ s :: after →
    s.hostName =
      s.role.nameStem ++ "-" ++ Text.padText 3 (before.countP (fun t => t.role = s.role) + 1)
  /-- Where these are the switches of a site, their places alone can keep them from records. -/
  recorded : ∀ inputs : Synthesis.Inputs, inputs.switches = switches →
    FailsOnly Synthesis.Error.IsPlacement (Synthesis.switchHardware inputs)

/-- Switches that lines list are those of the text when they have names. -/
theorem isReading_assignNames {text : String} {switches : List Switch}
    (hall : List.Forall₂ Lists ((textLines text).filter (IsEntry ·)) switches) :
    IsReading text (assignNames switches) := by
  have hlisted := forall₂_assignNamesAfter (fun _ _ name hlists => hlists.withName name) hall []
  have hline : ∀ s ∈ assignNames switches, ∃ line, Lists line s := by
    intro s hs
    obtain ⟨line, _, hlists⟩ := exists_of_forall₂ hlisted hs
    exact ⟨line, hlists⟩
  have hsuits : ∀ s ∈ assignNames switches, s.validate = .ok () := by
    intro s hs
    obtain ⟨_, hlists⟩ := hline s hs
    exact hlists.suits
  refine ⟨hlisted, fun s hs => ?_, hsuits, fun before s after hsplit => ?_, fun inputs hsame => ?_⟩
  · obtain ⟨_, hlists⟩ := hline s hs
    exact hlists.normalize_xname
  · simpa [numberedName] using hostName_of_assignNamesAfter hsplit
  · exact Synthesis.failsOnly_switchHardware (hsame ▸ hsuits)

/-- What is read from a text. If a list of switches is read then it has one switch for each line
that is neither blank nor a heading. If there is a line among these that cannot be used then the
first one is at fault, and its number is named. If there is none then a list is read. -/
theorem read_outcome (text : String) :
    (∀ switches, read text = .ok switches → IsReading text switches) ∧
    ((∃ line ∈ textLines text, Unusable line) →
      ∃ e before line after, read text = .error e ∧
        textLines text = before ++ line :: after ∧
        (∀ earlier ∈ before, ¬Unusable earlier) ∧ Unusable line ∧
        e.line = before.length + 1 ∧ e.Names (before.length + 1)) ∧
    ((∀ line ∈ textLines text, ¬Unusable line) → ∃ switches, read text = .ok switches) := by
  have hreads := reads_readLines 1 (textLines text)
  have hread : read text = (readLines 1 (textLines text)).map assignNames := by
    rw [read, readLines_lines]
  cases houtcome : readLines 1 (textLines text) with
  | ok switches =>
    rw [houtcome] at hreads hread
    obtain ⟨hnone, hall⟩ := hreads.of_ok
    refine ⟨fun named hok => ?_, fun ⟨line, hline, hunusable⟩ => ?_, fun _ => ⟨_, hread⟩⟩
    · obtain rfl := Except.ok.inj (hread.symm.trans hok)
      exact isReading_assignNames hall
    · exact absurd hunusable (hnone line hline)
  | error e =>
    rw [houtcome] at hreads hread
    obtain ⟨before, line, after, hlines, hbefore, hline, hnumber⟩ := hreads.of_error
    rw [Nat.add_comm] at hnumber
    refine ⟨fun _ hok => ?_, fun _ => ?_, fun hnone => ?_⟩
    · cases hread.symm.trans hok
    · exact ⟨e, before, line, after, hread, hlines, hbefore, hline, hnumber,
        hnumber ▸ e.names_line⟩
    · exact absurd hline (hnone line (by simp [hlines]))

/-- A text with a heading, two blank lines and three switches, the first of them with capitals and
padding in its location. -/
def mixedList : String :=
  "Switch Xname,Type,Brand,Model,IP\n , ,\n X03000C0W014 ,LeafBMC,Dell\r\n" ++
    "x3000c0h33s1,Spine,Aruba,8325,10.254.0.3\n\nx3000c0h34s1,Spine,Aruba,\n"

/-- A text with a heading, a blank line and a spine switch on the floor. -/
def misplacedList : String := "switch xname,,\n\nd0w1,Spine,Aruba\n"

/-- The three switches of the one text are read and counted by role, and the third line of the
other text is at fault. -/
theorem read_outcome_mixedList :
    (∃ switches, read mixedList = .ok switches ∧
      switches.map label = [("sw-leaf-bmc-001", "x3000c0w14"), ("sw-spine-001", "x3000c0h33s1"),
        ("sw-spine-002", "x3000c0h34s1")] ∧
      IsReading mixedList switches) ∧
    ∃ e, read misplacedList = .error e ∧ e.line = 3 ∧ e.Names 3 := by
  constructor
  · obtain ⟨switches, hok, hlabels⟩ : ∃ switches, read mixedList = .ok switches ∧
        decide (switches.map label = [("sw-leaf-bmc-001", "x3000c0w14"),
          ("sw-spine-001", "x3000c0h33s1"), ("sw-spine-002", "x3000c0h34s1")]) = true :=
      exists_of_toOption_any (by decide +kernel)
    exact ⟨switches, hok, of_decide_eq_true hlabels, (read_outcome mixedList).1 switches hok⟩
  · have hkept : isSkipped (columns "d0w1,Spine,Aruba".toList) = false := by decide +kernel
    have hunusable : Unusable "d0w1,Spine,Aruba".toList :=
      ⟨by simpa [isSkipped_columns] using hkept,
        .location .spine (by decide +kernel) (by decide +kernel)⟩
    have hmem : "d0w1,Spine,Aruba".toList ∈ textLines misplacedList := by
      rw [textLines, ← Text.split_eq_splitOn]
      simp [misplacedList, Text.split]
    obtain ⟨e, before, line, after, hread, _, _, _, hnumber, hnames⟩ :=
      (read_outcome misplacedList).2.1 ⟨_, hmem, hunusable⟩
    have hfault : read misplacedList = .error ⟨3, .mgmtSwitch (.xnameMismatch "d0w1" .spine
        (some .cduMgmtSwitch) [.mgmtHlSwitch])⟩ := by
      decide +kernel
    obtain rfl := Except.error.inj (hread.symm.trans hfault)
    have hthird : 3 = before.length + 1 := hnumber
    exact ⟨_, hread, rfl, hthird ▸ hnames⟩

end Listing

end SitePlan.Switch
