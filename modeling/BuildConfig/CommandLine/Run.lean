import BuildConfig.CommandLine
import BuildConfig.Compile
import BuildConfig.Json.Text
import BuildConfig.Palette
import BuildConfig.TestRunner.Config
import BuildConfig.Workspace.Load

namespace BuildConfig

/-- What a run leaves behind: its exit code and what it writes. -/
structure Outcome where
  exitCode : Nat
  output : String
  messages : String

namespace Outcome

def succeed (output messages : String) : Outcome := ⟨0, output, messages⟩

/-- The run ends with a failure, which is told in full. -/
def fail (palette : Palette) (failure : Failure) : Outcome :=
  ⟨1, "", palette.formatFailure failure ++ "\n"⟩

def ofResult (palette : Palette) : Except Failure Outcome → Outcome
  | .ok outcome => outcome
  | .error failure => fail palette failure

end Outcome

namespace Command

/-- The arguments of the run that a command asks for. -/
def arguments (flags : ConfigFlags) : Command → Arguments
  | .checkConfig => flags.toArguments "check-config"
  | .config command => flags.toArguments command
  | .testPlugins coverage _ =>
    let shared := flags.toArguments "test"
    if coverage then shared.withFlag "coverage" (.bool true) else shared

/-- Only a check has to have a configuration file. -/
def needsFile : Command → Bool
  | .checkConfig => true
  | _ => false

/-- The plugins and the configuration file of a project, made ready for a run. -/
def prepare (compiles : String → Bool) (files : Workspace) (flags : ConfigFlags)
    (command : Command) : Except Failure (Invocation × UserConfig) := do
  let plugins ← files.scanPlugins compiles
  let loaded ← files.loadConfig compiles flags.config command.needsFile
  let run := { Invocation.ofArguments (command.arguments flags) with plugins := plugins }
  match loaded with
  | some loaded => return ({ run with configPath := some loaded.path }, .tree loaded.config)
  | none => return (run, .absent)

section Performed

variable (palette : Palette) (run : Invocation) (user : UserConfig)

/-- Reports on the configuration file. -/
def reportOnConfig : Outcome :=
  let report := (run.check user).report
  let shown := palette.formatReport report ++ "\n"
  if report.hasErrors then
    ⟨1, "", shown ++ palette.errorLine report.summary⟩
  else if report.deprecations.isEmpty then
    .succeed "" (shown ++ palette.successLine "Config is valid")
  else
    .succeed "" (shown ++ palette.warningLine "Config is valid but uses deprecated settings")

/-- A tree as lines of JSON. -/
def jsonLines (value : Value) : String :=
  value.toJson.pretty ++ "\n"

/-- Writes the configuration that a command would be run with. -/
def showConfig (command : String) : Except Failure Outcome := do
  let compiled ← run.compile user
  let report := compiled.report
  let info := palette.infoLine
    ("Compiled " ++ command ++ " config from " ++ report.sourceText)
  let remarks := if report.hasSomethingToReport then palette.formatReport report ++ "\n" else ""
  return .succeed (jsonLines compiled.settings.toValue) (info ++ remarks)

/-- Writes the plugins that tests would be run with, or the whole configuration of the test runner.
Files hold no functions, so there is none to apply. -/
def showTestPlugins (coverage full : Bool) : Except Failure Outcome := do
  let karma := (← run.compile user).settings.karma
  let value :=
    if full then testRunnerConfig (fun _ config => config) karma (TestRun.ofArguments run.args)
    else (PluginOptions.ofEntries karma coverage).resolve.toValue
  return .succeed (jsonLines value) ""

/-- What a command does once all is ready. -/
def perform : Command → Except Failure Outcome
  | .checkConfig => .ok (reportOnConfig palette run user)
  | .config command => showConfig palette run user command
  | .testPlugins coverage full => showTestPlugins run user coverage full

end Performed

def run (compiles : String → Bool) (palette : Palette) (files : Workspace) (flags : ConfigFlags)
    (command : Command) : Outcome :=
  .ofResult palette do
    let (run, user) ← command.prepare compiles files flags
    command.perform palette run user

end Command

def versionLine : String :=
  toolName ++ " " ++ toolVersion ++ "\n"

end BuildConfig
