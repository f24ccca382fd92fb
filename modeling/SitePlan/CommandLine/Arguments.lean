import SitePlan.Plan.Generation

/-!
# Arguments of the command

The command line names what to do and sets options by long or short names. An option that
is not set there may be set by a variable of the environment. Arguments are read from left
to right: the first one that is wrong, or that asks for help, decides.
-/

namespace SitePlan.CommandLine

/-- What an option is set to. -/
inductive ValueKind
  /-- Nothing: the option is set or not. -/
  | flag
  /-- A path, which is not empty. -/
  | path
  /-- A number of 64 bits, without a minus sign. -/
  | uint64
  /-- A number of 8 bits. -/
  | uint8
  deriving DecidableEq

/-- A number from zero on: decimal digits, perhaps after a plus sign. Zero may have a minus
sign. -/
def natural? (value : String) : Option Nat :=
  match value.toList with
  | '+' :: digits => Text.readNat? digits
  | '-' :: digits => (Text.readNat? digits).filter (· = 0)
  | digits => Text.readNat? digits

/-- The text is a value of this kind. -/
def ValueKind.accepts : ValueKind → String → Bool
  | flag, value => value = "true" || value = "false"
  | path, value => value ≠ ""
  | uint64, value => !value.startsWith "-" && (natural? value).any (· < UInt64.size)
  | uint8, value => (natural? value).any (· < UInt8.size)

/-- An option of a command. -/
structure OptionSpec where
  /-- The long name, without dashes. -/
  name : String
  kind : ValueKind
  /-- The short name. -/
  short : Option Char := none
  /-- The variable of the environment that may set the option. -/
  setBy : Option String := none

/-- The option for more log text. -/
def verbose : OptionSpec := { name := "verbose", kind := .flag, short := some 'v' }

/-- The options that say where the files of a site are. -/
def inputOptions : List OptionSpec := [
  { name := "cabinets", kind := .path, setBy := some "CSI_CABINETS" },
  { name := "hmn-connections", kind := .path, setBy := some "CSI_HMN_CONNECTIONS" },
  { name := "switch-metadata", kind := .path, setBy := some "CSI_SWITCH_METADATA" },
  { name := "application-node-config", kind := .path,
    setBy := some "CSI_APPLICATION_NODE_CONFIG" }]

/-- The options of checking a site. -/
def validateOptions : List OptionSpec := verbose :: inputOptions

/-- The options of planning a site. -/
def generateOptions : List OptionSpec := validateOptions ++ [
  { name := "mountain-starting-nid", kind := .uint64,
    setBy := some "CSI_MOUNTAIN_STARTING_NID" },
  { name := "supernet-hack", kind := .flag, setBy := some "CSI_SUPERNET_HACK" },
  { name := "management-net-ips", kind := .uint64,
    setBy := some "CSI_MANAGEMENT_NET_IPS" },
  { name := "cabinet-prefix", kind := .uint8, setBy := some "CSI_CABINET_PREFIX" },
  { name := "output-dir", kind := .path, short := some 'o',
    setBy := some "CSI_OUTPUT_DIR" }]

/-- Why no command is run. -/
inductive Stop
  /-- Help was asked for. -/
  | help
  /-- The arguments are wrong. -/
  | usage
  deriving DecidableEq

/-- The options that have been set, by long name. -/
abbrev Settings := SortedMap String

/-- Sets an option, which must be unset so far. -/
def set (settings : Settings) (option : OptionSpec) (value : String) : Except Stop Settings :=
  if settings.contains option.name || !option.kind.accepts value then .error .usage
  else .ok (settings.insert option.name value)

/-- The option that the last argument has named, if it waits for its value there. -/
abbrev Waiting := Option OptionSpec

/-- Reads an argument of short names. An option that takes a value takes the rest of the
argument, or the next argument. -/
def readShort (options : List OptionSpec) (settings : Settings) :
    List Char → Except Stop (Settings × Waiting)
  | [] => .ok (settings, none)
  | c :: rest =>
    if c = 'h' then .error .help
    else
      match options.find? fun option => option.short = some c with
      | none => .error .usage
      | some option =>
        if option.kind = .flag then
          match set settings option "true" with
          | .error stop => .error stop
          | .ok settings => readShort options settings rest
        else
          match rest with
          | [] => .ok (settings, some option)
          | '=' :: value | value =>
            (set settings option (String.ofList value)).map (·, none)

/-- Reads an argument that is a long name, perhaps with a value. -/
def readLong (options : List OptionSpec) (settings : Settings) (arg : List Char) :
    Except Stop (Settings × Waiting) :=
  let name := String.ofList (arg.takeWhile (· ≠ '='))
  let value := (arg.dropWhile (· ≠ '=')).tail?.map String.ofList
  if name = "help" then .error (if value.isNone then .help else .usage)
  else
    match options.find? (·.name = name), value with
    | none, _ => .error .usage
    | some option, some value =>
      if option.kind = .flag then .error .usage
      else (set settings option value).map (·, none)
    | some option, none =>
      if option.kind = .flag then (set settings option "true").map (·, none)
      else .ok (settings, some option)

/-- Reads one argument that begins with a dash and is more than that. -/
def readOption (options : List OptionSpec) (settings : Settings) (arg : String) :
    Except Stop (Settings × Waiting) :=
  match arg.toList with
  | '-' :: '-' :: name => readLong options settings name
  | _ :: names => readShort options settings names
  | [] => .error .usage

/-- The argument is no value by itself. -/
def isOption (arg : String) : Bool :=
  match arg.toList with
  | '-' :: _ :: _ => true
  | _ => false

/-- Reads the arguments of a command that has options only. -/
def readOptions (options : List OptionSpec) (settings : Settings) (waiting : Waiting) :
    List String → Except Stop Settings
  | [] => if waiting.isSome then .error .usage else .ok settings
  | arg :: rest =>
    match waiting with
    | some option =>
      if isOption arg then .error .usage
      else
        match set settings option arg with
        | .error stop => .error stop
        | .ok settings => readOptions options settings none rest
    | none =>
      if arg = "--" then if rest.isEmpty then .ok settings else .error .usage
      else if isOption arg then
        match readOption options settings arg with
        | .error stop => .error stop
        | .ok (settings, waiting) => readOptions options settings waiting rest
      else .error .usage

/-- Sets options from variables of the environment, unless they are set already. -/
def addVariables (environment : String → Option String) (settings : Settings) :
    List OptionSpec → Except Stop Settings
  | [] => .ok settings
  | option :: rest =>
    match option.setBy.bind environment with
    | some value =>
      if settings.contains option.name then addVariables environment settings rest
      else
        match set settings option value with
        | .error stop => .error stop
        | .ok settings => addVariables environment settings rest
    | none => addVariables environment settings rest

/-- What the program is asked to do. -/
inductive Command
  /-- Plans a site and writes the plan. -/
  | generate (paths : Site.Paths) (options : Plan.Options) (outputDirectory : String)
  /-- Checks the files of a site. -/
  | validate (paths : Site.Paths)
  deriving DecidableEq

/-- Where the settings say the files of a site are. -/
def pathsOf (settings : Settings) : Site.Paths :=
  let usual : Site.Paths := {}
  { cabinets := (settings.get? "cabinets").getD usual.cabinets
    cabling := (settings.get? "hmn-connections").getD usual.cabling
    switches := (settings.get? "switch-metadata").getD usual.switches
    applicationNodes := settings.get? "application-node-config" }

/-- What the settings choose for a plan. -/
def optionsOf (settings : Settings) : Plan.Options :=
  let usual : Plan.Options := {}
  let number (name : String) (otherwise : Nat) : Nat :=
    ((settings.get? name).bind natural?).getD otherwise
  { firstLiquidCooledNid :=
      (number "mountain-starting-nid" usual.firstLiquidCooledNid.toNat).toUInt64
    layout := {
      supernet := settings.get? "supernet-hack" = some "true"
      cabinetBits := number "cabinet-prefix" usual.layout.cabinetBits
      spareSwitches := number "management-net-ips" usual.layout.spareSwitches } }

/-- The settings of a command from its arguments and the environment. -/
def settingsOf (options : List OptionSpec) (environment : String → Option String)
    (args : List String) : Except Stop Settings := do
  addVariables environment (← readOptions options .empty none args) options

/-- The names of the commands, the one for help included. -/
def commandNames : List String := ["generate", "validate", "help"]

/-- Reads the arguments of the named command. -/
def readCommand (environment : String → Option String) (name : String) (args : List String) :
    Except Stop Command := do
  match name with
  | "generate" =>
    let settings ← settingsOf generateOptions environment args
    return .generate (pathsOf settings) (optionsOf settings)
      ((settings.get? "output-dir").getD ".")
  | "validate" => return .validate (pathsOf (← settingsOf validateOptions environment args))
  | "help" =>
    match args with
    | [] => throw .help
    | [name] => throw (if commandNames.contains name then .help else .usage)
    | _ => throw .usage
  | _ => throw .usage

/-- Reads all arguments: options of the program, then a command. -/
def readAll (environment : String → Option String) (settings : Settings) :
    List String → Except Stop Command
  | [] => .error .usage
  | arg :: rest =>
    if arg = "--" then .error .usage
    else if isOption arg then
      match readOption [verbose] settings arg with
      | .error stop => .error stop
      | .ok (settings, _) => readAll environment settings rest
    else readCommand environment arg rest

/-- The command that the arguments and the environment ask for. -/
def parse (environment : String → Option String) (args : List String) :
    Except Stop Command :=
  readAll environment .empty args

end SitePlan.CommandLine
