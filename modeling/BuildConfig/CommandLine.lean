import BuildConfig.Arguments
import BuildConfig.Text.Digits

namespace BuildConfig

/-- The flags that all commands share. -/
structure ConfigFlags where
  config : Option String
  type : Option String
  umd : Option String
  esModules : Option String
  browsers : Option String
  host : Option String
  port : Option Nat
  keepPropTypes : Bool
  openBrowser : Bool
  noHotReload : Bool
  inferno : Bool
  preact : Bool

inductive Command where
  | checkConfig
  | config (forCommand : String)
  | testPlugins (coverage full : Bool)

/-- What a command line asks for. -/
inductive Request where
  | version
  | help
  | run (command : Command) (flags : ConfigFlags)

namespace ConfigFlags

/-- The flags as the compiler sees them. Hot reloading can only be switched off. -/
def toArguments (flags : ConfigFlags) (command : String) : Arguments :=
  let umd := flags.umd.map fun name => if name = "false" then Value.bool false else .string name
  let switch (on : Bool) : Option Value := if on then some (.bool true) else none
  let settings : List (String × Option Value) :=
    [("type", flags.type.map .string),
      ("umd", umd),
      ("es-modules", flags.esModules.map .string),
      ("browsers", flags.browsers.map .string),
      ("host", flags.host.map .string),
      ("port", flags.port.map fun port => .ofInt port),
      ("keep-proptypes", switch flags.keepPropTypes),
      ("open", switch flags.openBrowser),
      ("inferno", switch flags.inferno),
      ("preact", switch flags.preact),
      ("hmr", if flags.noHotReload then some (.bool false) else none)]
  settings.foldl (fun args (name, value) =>
    match value with
    | some value => args.withFlag name value
    | none => args) ⟨[command], []⟩

end ConfigFlags

namespace CommandLine

/-- The long flags that take a value. -/
def valueFlags : List String :=
  ["config", "type", "umd", "es-modules", "browsers", "host", "port"]

/-- The flags whose value can be left out, with the value that stands in. -/
def standIns : Entries String := [("es-modules", "true")]

def sharedSwitches : List String :=
  ["verbose", "keep-proptypes", "open", "no-hmr", "inferno", "preact"]

/-- What stops the reading of a command line. -/
inductive Stop where
  | misuse
  | help
  | version

/-- What has been read so far. -/
structure Given where
  values : Entries String
  switches : List String
  positional : List String

/-- A port: an integer in decimal digits, with a sign if need be, that fits sixteen bits. Of
negative ones that is zero alone. -/
def readPort? (text : String) : Option Nat :=
  match text.toList with
  | '+' :: rest => (Text.decimal? rest).filter (· < Nat.pow 2 16)
  | '-' :: rest => (Text.decimal? rest).filter (· == 0)
  | digits => (Text.decimal? digits).filter (· < Nat.pow 2 16)

namespace Given

/-- No flag is given twice. -/
def setValue (given : Given) (flag value : String) : Except Stop Given :=
  if Entries.contains given.values flag then .error .misuse
  else if flag = "port" && (readPort? value).isNone then .error .misuse
  else .ok { given with values := given.values ++ [(flag, value)] }

def setSwitch (given : Given) (flag : String) : Except Stop Given :=
  if given.switches.contains flag then .error .misuse
  else .ok { given with switches := given.switches ++ [flag] }

/-- A flag that still waits for its value gets the one that stands in, if there is one. -/
def settle (given : Given) (waiting : Option String) : Except Stop Given :=
  match waiting with
  | none => .ok given
  | some flag =>
    match Entries.get? standIns flag with
    | some value => given.setValue flag value
    | none => .error .misuse

/-- Reads a long flag, without its hyphens: what is given, and the flag that waits for its value. -/
def longFlag (given : Given) (switches : List String) (flag : List Char) :
    Except Stop (Given × Option String) :=
  let (name, attached) := flag.span (· != '=')
  let name := String.ofList name
  match attached with
  | [] =>
    if valueFlags.contains name then .ok (given, some name)
    else if switches.contains name then (given.setSwitch name).map (·, none)
    else if name = "help" then .error .help
    else .error .misuse
  | _ :: value =>
    if valueFlags.contains name then (given.setValue name (String.ofList value)).map (·, none)
    else .error .misuse

/-- Reads short flags, which can be written together. -/
def shortFlags (given : Given) : List Char → Except Stop Given
  | [] => .ok given
  | 'v' :: rest => do (← given.setSwitch "verbose").shortFlags rest
  | 'h' :: _ => .error .help
  | _ => .error .misuse

/-- Takes a positional argument, if the command has room for one more. -/
def addPositional (given : Given) (capacity : Nat) (argument : String) : Except Stop Given :=
  if given.positional.length < capacity then
    .ok { given with positional := given.positional ++ [argument] }
  else .error .misuse

/-- Reads the arguments of a command. A flag ends the wait of the one before; after two hyphens
everything is positional. -/
def read (switches : List String) (capacity : Nat) (given : Given) (waiting : Option String)
    (onlyPositional : Bool) : List String → Except Stop Given
  | [] => given.settle waiting
  | argument :: rest =>
    let plain : Except Stop Given := do
      let given ← match waiting with
        | some flag => given.setValue flag argument
        | none => given.addPositional capacity argument
      read switches capacity given none onlyPositional rest
    if onlyPositional then plain
    else match argument.toList with
      | ['-', '-'] => do read switches capacity (← given.settle waiting) none true rest
      | '-' :: '-' :: flag => do
        let (given, waiting) ← (← given.settle waiting).longFlag switches flag
        read switches capacity given waiting false rest
      | '-' :: c :: more => do
        let given ← (← given.settle waiting).shortFlags (c :: more)
        read switches capacity given none false rest
      | _ => plain

/-- The shared flags among what is given. -/
def flags (given : Given) : ConfigFlags :=
  let value (name : String) := Entries.get? given.values name
  let switch (name : String) := given.switches.contains name
  { config := value "config"
    type := value "type"
    umd := value "umd"
    esModules := value "es-modules"
    browsers := value "browsers"
    host := value "host"
    port := (value "port").bind readPort?
    keepPropTypes := switch "keep-proptypes"
    openBrowser := switch "open"
    noHotReload := switch "no-hmr"
    inferno := switch "inferno"
    preact := switch "preact" }

end Given

/-- The names of the commands. -/
def commandNames : List String := ["check-config", "config", "test-plugins", "help"]

/-- Reads the arguments of the command with a name. -/
def readCommand (name : String) (arguments : List String) : Except Stop Request :=
  let read (switches : List String) (capacity : Nat) :=
    Given.read (switches ++ sharedSwitches) capacity ⟨[], [], []⟩ none false arguments
  match name with
  | "check-config" => do
    let given ← read [] 0
    return .run .checkConfig given.flags
  | "config" => do
    let given ← read [] 1
    return .run (.config (given.positional.headD "build")) given.flags
  | "test-plugins" => do
    let given ← read ["coverage", "full"] 0
    return .run (.testPlugins (given.switches.contains "coverage")
      (given.switches.contains "full")) given.flags
  | "help" =>
    match arguments with
    | [] => throw .help
    | [about] => throw (if commandNames.contains about then .help else .misuse)
    | _ => throw .misuse
  | _ => throw .misuse

/-- Reads the short flags before the command. -/
def leadingFlags (verbose : Bool) : List Char → Except Stop Bool
  | [] => .ok verbose
  | 'v' :: rest => if verbose then .error .misuse else leadingFlags true rest
  | 'V' :: _ => .error .version
  | 'h' :: _ => .error .help
  | _ => .error .misuse

/-- Reads a command line up to its command; there has to be one. -/
def readFrom (verbose : Bool) : List String → Except Stop Request
  | [] => .error .misuse
  | "--version" :: _ => .error .version
  | "--help" :: _ => .error .help
  | "--verbose" :: rest => if verbose then .error .misuse else readFrom true rest
  | argument :: rest =>
    match argument.toList with
    | '-' :: '-' :: _ => .error .misuse
    | '-' :: c :: more => do readFrom (← leadingFlags verbose (c :: more)) rest
    | _ => readCommand argument rest

/-- What a command line asks for; nothing when it is not understood. -/
def read? (arguments : List String) : Option Request :=
  match readFrom false arguments with
  | .ok request => some request
  | .error .version => some .version
  | .error .help => some .help
  | .error .misuse => none

end CommandLine

end BuildConfig
