import SitePlan.Switch
import SitePlan.Text.Quoted
import SitePlan.Text.Split
import SitePlan.Xname.Canonical

/-!
# The list of management switches

A site lists its management switches one a line: location, role, brand, and perhaps model
and address, with commas between them. Blank lines and headings are left out. The first
line that cannot be used is reported by its number.
-/

namespace SitePlan.Switch.Listing

/-- What makes a line unusable. -/
inductive LineError
  /-- It has too few or too many columns. -/
  | columns (found : Nat)
  /-- Its role or brand is unknown, or its location does not suit the role. -/
  | mgmtSwitch (fault : Switch.Error)
  /-- The last column is no address. -/
  | address (written : String)
  deriving DecidableEq

/-- A line that cannot be used. -/
structure Error where
  /-- The number of the line, counted from one. -/
  line : Nat
  fault : LineError
  deriving DecidableEq

/-- The fault in words, and what is behind it, from the outside in. -/
def Error.causes (e : Error) : List String :=
  match e.fault with
  | .columns found =>
    [s!"Line {e.line}: expected 3 to 5 columns (Switch Xname,Type,Brand,Model,IP), found {found}"]
  | .mgmtSwitch fault => [s!"Line {e.line}", fault.message]
  | .address written =>
    [s!"Line {e.line}: invalid management IP " ++ Text.quoted written,
      "invalid IPv4 address syntax"]

/-- The first column of a heading, in lower case. -/
def heading : String := "switch xname"

/-- The columns of a line, without the space around them. -/
def columns (line : List Char) : List String :=
  (Text.split ',' line).map fun cs => String.ofList (Text.trim cs)

/-- The line lists no switch: it is blank or a heading. -/
def isSkipped (cols : List String) : Bool :=
  cols.all (· = "") || cols.head?.any (·.toLower = heading)

/-- The address in a column, if anything is written there. -/
def readAddress (column : String) : Except LineError (Option Ipv4) :=
  if column = "" then .ok none
  else
    match Ipv4.parse? column with
    | some ip => .ok (some ip)
    | none => .error (.address column)

/-- The switch that a line of three to five columns lists. It has no host name yet. -/
def switch (location role brand model address : String) : Except LineError Switch := do
  let role ← (Role.parse role).mapError .mgmtSwitch
  let brand ← (Brand.parse brand).mapError .mgmtSwitch
  let ip ← readAddress address
  let s : Switch := {
    xname := Xname.normalize (Text.lowerText location)
    hostName := ""
    role := role
    brand := brand
    model := model
    managementAddress := ip }
  s.validate.mapError .mgmtSwitch
  return s

/-- The switch that a line lists. -/
def readColumns : List String → Except LineError Switch
  | [location, role, brand] => switch location role brand "" ""
  | [location, role, brand, model] => switch location role brand model ""
  | [location, role, brand, model, address] => switch location role brand model address
  | cols => .error (.columns cols.length)

/-- The switches that lines list, where the first line has the given number. -/
def readLines (number : Nat) : List (List Char) → Except Error (List Switch)
  | [] => .ok []
  | line :: rest =>
    if isSkipped (columns line) then readLines (number + 1) rest
    else
      match readColumns (columns line) with
      | .error fault => .error ⟨number, fault⟩
      | .ok s =>
        match readLines (number + 1) rest with
        | .error fault => .error fault
        | .ok switches => .ok (s :: switches)

/-- The switches that a text lists, with host names. -/
def read (text : String) : Except Error (List Switch) :=
  (readLines 1 (Text.lines text.toList)).map assignNames

end SitePlan.Switch.Listing
