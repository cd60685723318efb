import BuildConfig.Canonical
import BuildConfig.Failure
import BuildConfig.Hoist
import BuildConfig.Merge
import BuildConfig.Overrides
import BuildConfig.Schema.Check
import BuildConfig.Schema.UserConfig

namespace BuildConfig

/-- The name of the tool, as transforms see it. -/
def toolName : String := "sprout"

def toolVersion : String := "0.1.0"

/-- What a configuration transform is told about the run. -/
structure Context where
  command : Option String
  args : Arguments
  mode : BuildMode

/-- What the user provides: nothing, a tree, or a function of the run that makes one. -/
inductive UserConfig where
  | absent
  | tree (config : Value)
  | transform (make : Context → Value)

/-- The tree that the user's part comes to in a run. -/
def UserConfig.evaluate (user : UserConfig) (context : Context) : Value :=
  match user with
  | .absent => .empty
  | .tree config => config
  | .transform make => make context

/-- One run of the compiler. -/
structure Invocation where
  args : Arguments
  mode : BuildMode
  plugins : Preprocessors
  configPath : Option String

/-- The user's part and the overrides in canonical form, with all there is to say about them. -/
structure Checked where
  user : Value
  overrides : Value
  report : Report

/-- A compiled configuration: the type of project and the entries of every namespace. -/
structure Settings where
  type : Option ProjectType
  babel : Entries Value
  devServer : Entries Value
  karma : Entries Value
  npm : Entries Value
  webpack : Entries Value

structure Compiled where
  settings : Settings
  report : Report

namespace Settings

/-- Splits a merged tree into its namespaces. -/
def ofValue (config : Value) : Except Failure Settings := do
  let type ← match config.get? "type" with
    | some (.string name) =>
      match ProjectType.ofName? name with
      | some type => pure (some type)
      | none => throw (.unknownProjectType name)
    | _ => pure none
  let entriesOf (name : String) := ((config.get? name).getD .empty).entries
  return ⟨type, entriesOf "babel", entriesOf "devServer", entriesOf "karma", entriesOf "npm",
    entriesOf "webpack"⟩

def namespace? (settings : Settings) (name : String) : Option (Entries Value) :=
  Entries.get?
    [("babel", settings.babel), ("devServer", settings.devServer), ("karma", settings.karma),
      ("npm", settings.npm), ("webpack", settings.webpack)] name

/-- The tree of the settings; the type is left out when there is none. -/
def toValue (settings : Settings) : Value :=
  .map ((match settings.type with
      | some type => [("type", .string type.name)]
      | none => [])
    ++ [("babel", .map settings.babel), ("devServer", .map settings.devServer),
      ("karma", .map settings.karma), ("npm", .map settings.npm),
      ("webpack", .map settings.webpack)])

end Settings

namespace Invocation

/-- A run for a command line, in the mode of its command. -/
def ofArguments (args : Arguments) : Invocation where
  args := args
  mode := (args.command?.map BuildMode.ofCommand).getD .development
  plugins := .empty
  configPath := none

def context (run : Invocation) : Context :=
  ⟨run.args.command?, run.args, run.mode⟩

/-- Brings the user's part and the overrides to canonical form and checks both. It never fails: what
is wrong is in the report. -/
def check (run : Invocation) (user : UserConfig) : Checked :=
  let schema := Schema.userConfig run.plugins
  let (user, remarks) := canonicalize (user.evaluate run.context)
  let report := ((Report.ofSource run.configPath).addAll remarks).validate schema user
  let (overrides, remarks) := canonicalize (commandLineOverrides run.args)
  let report := (report.addAll remarks).validate schema overrides
  ⟨user, overrides, { report with hasArgumentOverrides := hasOverrides run.args }⟩

/-- The type that is given as a flag, or else by the user. -/
def declaredType (checked : Checked) : Except Failure (Option ProjectType) :=
  match (checked.overrides.get? "type").or (checked.user.get? "type") with
  | some (.string name) =>
    match ProjectType.ofName? name with
    | some type => .ok (some type)
    | none => .error (.unknownProjectType name)
  | _ => .ok none

/-- Compiles a configuration: baseline, defaults of the project type, the user's part and overrides
from flags, each laid over the ones before. A report with errors ends it. -/
def compile (run : Invocation) (user : UserConfig) : Except Failure Compiled := do
  let checked := run.check user
  if checked.report.hasErrors then
    throw (.configValidation checked.report)
  let type ← declaredType checked
  let merged := mergeLayers
    [baseline, projectDefaults type run.mode run.args, checked.user, checked.overrides]
  let settings ← Settings.ofValue (hoistConfig run.plugins merged)
  return ⟨settings, checked.report⟩

end Invocation

end BuildConfig
