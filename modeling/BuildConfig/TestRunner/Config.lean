import BuildConfig.Arguments
import BuildConfig.Merge
import BuildConfig.TestRunner.Plugins

namespace BuildConfig

/-- How tests are run. -/
structure TestRun where
  coverage : Bool
  singleRun : Bool

namespace TestRun

def ofArguments (args : Arguments) : TestRun :=
  ⟨args.isEnabled "coverage", !args.isEnabled "server"⟩

end TestRun

/-- The test files that are looked for when the configuration names none. -/
def defaultTestFiles : String := "+(src|test?(s))/**/*+(-test|.spec|.test).js"

/-- The files to test: the one context module, else the files that are named. -/
def testFiles (karma : Entries Value) : List Value :=
  match Entries.get? karma "testContext", Entries.get? karma "testFiles" with
  | some (.string context), _ => [.string context]
  | _, some (.array files) => files
  | _, some (.string file) => [.string file]
  | _, _ => [.string defaultTestFiles]

/-- Each named file is bundled and has its source map read. -/
def filePreprocessors (files : List Value) : Entries Value :=
  (files.filterMap Value.asString?).foldl
    (fun entries file =>
      Entries.insert entries file (.array [.string "webpack", .string "sourcemap"])) []

def coverageReporter (karma : Entries Value) : Value :=
  let report (kind directory : String) : Value :=
    .map [("type", .string kind), ("subdir", .string directory)]
  .map ([("dir", .string "coverage"),
      ("reporters", .array [report "html" "html", report "lcovonly" "."])]
    ++ match Entries.get? karma "excludeFromCoverage" with
      | some excluded => [("exclude", excluded)]
      | none => [])

/-- The configuration that is generated from the options alone. -/
def generatedTestConfig (karma : Entries Value) (run : TestRun) : Entries Value :=
  let files := testFiles karma
  (PluginOptions.ofEntries karma run.coverage).resolve.entries
    ++ [("files", .array files), ("preprocessors", .map (filePreprocessors files)),
      ("singleRun", .bool run.singleRun), ("mochaReporter", .map [("showDiff", .bool true)])]
    ++ if run.coverage then [("coverageReporter", coverageReporter karma)] else []

/-- The whole configuration of the test runner: the generated one, the user's extra configuration
laid over it with arrays appended, and last the user's function of the result. -/
def testRunnerConfig (functions : Functions) (karma : Entries Value) (run : TestRun) : Value :=
  let generated : Value := .map (generatedTestConfig karma run)
  let extended := match Entries.get? karma "extra" with
    | some extra => generated.mergeWith .concatenating extra
    | none => generated
  match Entries.get? karma "config" with
  | some (.function name) => functions name extended
  | _ => extended

end BuildConfig
