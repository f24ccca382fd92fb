import SitePlan.CommandLine.Run

/-!
# The command

Reads the files that the command needs, runs it, and writes what comes out.
-/

namespace SitePlan.Main

open CommandLine

/-- How the command is used. -/
def usage : String :=
  "Generate SLS hardware and network plans for a Shasta site\n\n" ++
    "Usage: csi [-v] generate [options]\n       csi [-v] validate [options]\n\n" ++
    "Options of both:\n" ++
    "  --cabinets <path>                 cabinet layout [cabinets.yaml]\n" ++
    "  --hmn-connections <path>          cabling rows [hmn_connections.json]\n" ++
    "  --switch-metadata <path>          management switches [switch_metadata.csv]\n" ++
    "  --application-node-config <path>  application nodes\n\n" ++
    "Options of generate:\n" ++
    "  --mountain-starting-nid <number>  first number of liquid-cooled nodes [1000]\n" ++
    "  --supernet-hack                   widen the bootstrap subnets\n" ++
    "  --management-net-ips <count>      addresses kept for switches [0]\n" ++
    "  --cabinet-prefix <bits>           size of cabinet subnets [22]\n" ++
    "  -o, --output-dir <path>           where files are written [.]\n"

/-- The paths of the files that a command reads. -/
def pathsOf : Command → Site.Paths
  | .generate paths .. => paths
  | .validate paths => paths

/-- Reads the files at the given paths. A file that cannot be read is left out. -/
def readAll (paths : List String) : IO Directory := do
  let found ← paths.filterMapM fun (path : String) => do
    match ← (IO.FS.readBinFile path).toBaseIO with
    | .ok bytes => return some (Directory.shortest path, bytes)
    | .error _ => return none
  return SortedMap.ofList found

/-- Writes a file, with the directories on its way. -/
def writeOut (path text : String) : IO Unit := do
  let steps := path.splitOn "/"
  if 1 < steps.length then
    IO.FS.createDirAll ("/".intercalate steps.dropLast)
  IO.FS.writeFile path text

/-- A fault with what is behind it, as it is shown. -/
def report : List String → String
  | [] => "Error"
  | [message] => s!"Error: {message}"
  | [message, cause] => s!"Error: {message}\n\nCaused by:\n    {cause}"
  | message :: causes =>
    s!"Error: {message}\n\nCaused by:\n" ++
      "\n".intercalate (causes.zipIdx.map fun (cause, n) => s!"    {n}: {cause}")

end SitePlan.Main

open SitePlan CommandLine in
/-- Runs the command. -/
def main (args : List String) : IO UInt32 := do
  let settings ← generateOptions.filterMapM fun option =>
    match option.setBy with
    | none => return none
    | some name => return (← IO.getEnv name).map (name, ·)
  match parse (fun name => settings.lookup name) args with
  | .error .help =>
    IO.print Main.usage
    return 0
  | .error .usage =>
    IO.eprint Main.usage
    return 2
  | .ok command =>
    let paths := Main.pathsOf command
    let dir ← Main.readAll
      ([paths.cabinets, paths.cabling, paths.switches] ++ paths.applicationNodes.toList)
    let (result, files) := command.run dir
    for (path, text) in files do
      match ← (Main.writeOut path text).toBaseIO with
      | .ok () => continue
      | .error fault =>
        IO.eprintln (Main.report [s!"Failed to write {path}", toString fault])
        return 1
    match result with
    | .ok () => return 0
    | .error causes =>
      IO.eprintln (Main.report causes)
      return 1
