import SitePlan.SortedMap
import SitePlan.Text.Split

/-!
# Files by path

The files that a site is described in, by their paths. A path begins at the root of all
files or where the planner runs, and may have empty steps, steps that stay and steps up.
Where a plan is written, a directory is made at every step of the path, also at those that
are left again by a step up.
-/

namespace SitePlan

/-- The contents of files by path. -/
abbrev Directory := SortedMap ByteArray

namespace Directory

/-- Why something in a directory cannot be read as text, or cannot be made. -/
inductive Fault
  | missing
  /-- Something stands where a directory is to be made. -/
  | taken
  /-- A file stands where a directory would have to be. -/
  | notDirectory
  | isDirectory
  | tooLong
  | holdsNul
  | notText
  deriving DecidableEq

/-- The fault in words. -/
def Fault.message : Fault → String
  | .missing => "No such file or directory (os error 2)"
  | .taken => "File exists (os error 17)"
  | .notDirectory => "Not a directory (os error 20)"
  | .isDirectory => "Is a directory (os error 21)"
  | .tooLong => "File name too long (os error 36)"
  | .holdsNul => "file name contained an unexpected NUL byte"
  | .notText => "stream did not contain valid UTF-8"

/-- How many bytes long the name of a file or directory may be. -/
def longestName : Nat := 255

/-- How many bytes long a path may be. -/
def longestPath : Nat := 4095

/-- The steps of a path that lead somewhere. -/
def steps (path : String) : List (List Char) :=
  (Text.split '/' path.toList).filter fun step => step ≠ [] && step ≠ ['.']

/-- The path that takes these steps from where the given one begins. -/
def along (path : String) (steps : List (List Char)) : String :=
  let way := String.ofList (List.intercalate ['/'] steps)
  if path.startsWith "/" then "/" ++ way else way

/-- The path with only the steps that lead somewhere. -/
def shortest (path : String) : String := along path (steps path)

/-- The directories from the start of a way down to where one more step leads, innermost
first. A step up leaves the innermost one, and there is nothing above the root. -/
def follow (fromRoot : Bool) (directories : List (List Char)) (step : List Char) :
    List (List Char) :=
  if step = ['.', '.'] then
    match directories with
    | [] => if fromRoot then [] else [step]
    | last :: outer => if last = step then step :: directories else outer
  else step :: directories

/-- The steps down to where these lead, after those up from where they begin. -/
def descent (fromRoot : Bool) (steps : List (List Char)) : List (List Char) :=
  (steps.foldl (follow fromRoot) []).reverse

/-- The path to where these steps lead, from where the given one begins. -/
def place (path : String) (steps : List (List Char)) : String :=
  along path (descent (path.startsWith "/") steps)

/-- The path ends with a step that only a directory allows. -/
def meansDirectory (path : String) : Bool :=
  match (Text.split '/' path.toList).getLast? with
  | some step => step = [] || step = ['.']
  | none => true

/-- Why a path leads nowhere, whatever there is. -/
def textFault? (path : String) : Option Fault :=
  if path.contains '\x00' then some .holdsNul
  else if longestPath < path.utf8ByteSize then some .tooLong
  else none

/-- A name that no file or directory can have. -/
def isTooLong (step : List Char) : Bool := longestName < (String.ofList step).utf8ByteSize

/-- There is a directory at the end of a descent: one on the way to a file, or where the
path begins, or one further up. -/
def hasDirectory (dir : Directory) (path : String) (way : List (List Char)) : Bool :=
  way.all (· = ['.', '.']) ||
    dir.entries.any fun entry => entry.1.startsWith (along path way ++ "/")

/-- Why nothing can be read at a path, found at the first step that does not lead on. -/
def obstacle? (dir : Directory) (path : String) : Option Fault :=
  let way := steps path
  (textFault? path).or <|
    if path.isEmpty then some .missing
    else (List.range way.length).findSome? fun n =>
      let reached := descent (path.startsWith "/") (way.take (n + 1))
      if way[n]?.any isTooLong then some .tooLong
      else if dir.hasDirectory path reached then none
      else if !dir.contains (along path reached) then some .missing
      else if n + 1 < way.length || meansDirectory path then some .notDirectory
      else none

/-- The contents of the file at a path, by its steps as written or by where they lead. -/
def find? (dir : Directory) (path : String) : Option ByteArray :=
  if meansDirectory path || (textFault? path).isSome then none
  else
    (dir.get? (shortest path)).or
      (if (dir.obstacle? path).isNone then dir.get? (place path (steps path)) else none)

/-- The text in the file at a path. -/
def text (dir : Directory) (path : String) : Except Fault String :=
  match dir.find? path with
  | none => .error ((dir.obstacle? path).getD .isDirectory)
  | some bytes =>
    match String.fromUTF8? bytes with
    | none => .error .notText
    | some text => .ok text

/-- Where the steps of a path lead, one after the other. A directory is made in each of
these places when one is made at the path. -/
def places (path : String) : List String :=
  let way := steps path
  (List.range way.length).map fun n => place path (way.take (n + 1))

/-- Why no directory can be made at a path: its text or a name in it is at fault, or a file
stands there or on the way. -/
def makingFault? (dir : Directory) (path : String) : Option Fault :=
  (textFault? path).or <|
    if (steps path).any isTooLong then some .tooLong
    else
      match (places path).dropWhile fun reached => !dir.contains reached with
      | [] => none
      | [_] => some .taken
      | _ => some .notDirectory

/-- Why no file can be written at a path once directories have been made in some places.
Everything on the way is taken to be a directory. -/
def writingFault? (dir : Directory) (made : List String) (path : String) : Option Fault :=
  let reached := descent (path.startsWith "/") (steps path)
  (textFault? path).or <|
    if made.contains (along path reached) || dir.hasDirectory path reached then
      some .isDirectory
    else none

end Directory

end SitePlan
