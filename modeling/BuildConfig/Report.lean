import BuildConfig.Path
import BuildConfig.Value
import BuildConfig.Wording

namespace BuildConfig

/-- A value that does not fit its place. -/
structure Problem where
  path : Path
  value : Value
  message : String

/-- A remark on a place that does not stop the build. -/
structure Notice where
  path : Path
  messages : List String

/-- What a pass over a configuration has to say, in the order in which it is found. -/
inductive Finding where
  | problem (problem : Problem)
  | deprecation (notice : Notice)
  | hint (notice : Notice)

/-- Everything there is to say about one configuration, and where it came from. Reports only grow.
-/
structure Report where
  configPath : Option String
  hasArgumentOverrides : Bool
  errors : List Problem
  deprecations : List Notice
  hints : List Notice

namespace Report

/-- The empty report on a file, or on the defaults when there is none. -/
def ofSource (configPath : Option String) : Report :=
  ⟨configPath, false, [], [], []⟩

def addError (report : Report) (path : Path) (value : Value) (message : String) : Report :=
  { report with errors := report.errors ++ [⟨path, value, message⟩] }

def addDeprecation (report : Report) (path : Path) (messages : List String) : Report :=
  { report with deprecations := report.deprecations ++ [⟨path, messages⟩] }

def addHint (report : Report) (path : Path) (messages : List String) : Report :=
  { report with hints := report.hints ++ [⟨path, messages⟩] }

def add (report : Report) : Finding → Report
  | .problem found => report.addError found.path found.value found.message
  | .deprecation notice => report.addDeprecation notice.path notice.messages
  | .hint notice => report.addHint notice.path notice.messages

def addAll (report : Report) (findings : List Finding) : Report :=
  findings.foldl add report

def hasErrors (report : Report) : Bool :=
  !report.errors.isEmpty

def hasSomethingToReport (report : Report) : Bool :=
  !(report.errors.isEmpty && report.deprecations.isEmpty && report.hints.isEmpty)

/-- Where the configuration came from, in words. -/
def sourceText (report : Report) : String :=
  match report.configPath, report.hasArgumentOverrides with
  | some path, true => path ++ " (with CLI argument overrides)"
  | some path, false => path
  | none, true => "config via CLI arguments"
  | none, false => "default config"

def summary (report : Report) : String :=
  let count := report.errors.length
  "Invalid config: " ++ toString count ++ " error" ++ pluralEnding count ++ " in "
    ++ report.sourceText

end Report

end BuildConfig
