import SitePlan.CommandLine.Arguments
import SitePlan.Plan.Files

/-!
# Running a command

Everything but reading and writing files: a command makes the files of a plan from the
files of a site, or ends with a fault and what is behind it. A fault while files are
written leaves those that were written before.
-/

namespace SitePlan.CommandLine

/-- Faults in words from the outside in: what failed, then what is behind it. -/
abbrev Causes := List String

/-- Files by path and text, in the order in which they are written. -/
abbrev TextFiles := List (String × String)

/-- The path of something in a directory. -/
def inDirectory (directory path : String) : String :=
  if directory.toList.getLast? = some '/' then directory ++ path else s!"{directory}/{path}"

/-- Loads a site, with faults in words. -/
def loadSite (dir : Directory) (paths : Site.Paths) : Except Causes Site :=
  (Site.load dir paths).mapError fun e => e.context :: e.causes

/-- Plans the site in a directory, with faults in words. -/
def planSite (dir : Directory) (paths : Site.Paths) (options : Plan.Options) :
    Except Causes Plan := do
  (Plan.generate (← loadSite dir paths) options).mapError fun e => e.context :: e.causes

/-- Writes files one after the other, once directories have been made in some places. The
first file that cannot be written ends that. -/
def writeAll (dir : Directory) (made : List String) :
    TextFiles → Except Causes Unit × TextFiles
  | [] => (.ok (), [])
  | (path, text) :: rest =>
    match dir.writingFault? made path with
    | some fault => (.error [s!"Failed to write {path}", fault.message], [])
    | none =>
      let (result, written) := writeAll dir made rest
      (result, (path, text) :: written)

/-- Writes a plan to a directory, which is made first, with the one for the networks. -/
def writePlan (dir : Directory) (outputDirectory : String) (plan : Plan) :
    Except Causes Unit × TextFiles :=
  let networks := inDirectory outputDirectory Plan.networksDirectory
  match dir.makingFault? networks with
  | some fault => (.error [s!"Failed to create {networks}", fault.message], [])
  | none =>
    writeAll dir (Directory.places networks)
      (plan.fileList.map fun (path, text) => (inDirectory outputDirectory path, text))

/-- Runs a command: how it ends, and the files that it writes. Checking a site writes
none. -/
def Command.run (dir : Directory) : Command → Except Causes Unit × TextFiles
  | validate paths => ((loadSite dir paths).map fun _ => (), [])
  | generate paths options outputDirectory =>
    match planSite dir paths options with
    | .error causes => (.error causes, [])
    | .ok plan => writePlan dir outputDirectory plan

end SitePlan.CommandLine
