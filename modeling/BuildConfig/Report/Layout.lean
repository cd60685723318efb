import BuildConfig.Report
import BuildConfig.Value.Inspect

namespace BuildConfig

/-- The three sections of a report. -/
inductive DiagnosticKind where
  | error
  | deprecation
  | hint
  deriving DecidableEq

namespace DiagnosticKind

def symbol : DiagnosticKind → String
  | .error => "✖"
  | .deprecation => "⚠"
  | .hint => "ℹ"

def heading : DiagnosticKind → String
  | .error => "Error"
  | .deprecation => "Deprecation Warning"
  | .hint => "Hint"

/-- The heading of a section; the count is given from two on. -/
def sectionHeading (kind : DiagnosticKind) (count : Nat) : String :=
  (if 1 < count then toString count ++ " " else "") ++ kind.heading ++ pluralEnding count

end DiagnosticKind

/-- How the parts of a report are dressed. Each field takes plain text and gives the text to show.
-/
structure ReportStyle where
  title : String → String
  heading : DiagnosticKind → String → String
  marker : DiagnosticKind → String → String
  punctuation : String → String
  success : String → String

/-- Every part as it is. -/
def ReportStyle.plain : ReportStyle :=
  ⟨id, fun _ => id, fun _ => id, id, id⟩

namespace Report

/-- The marker line of a finding: the symbol of its kind and its path. -/
def markerText (kind : DiagnosticKind) (path : Path) : String :=
  kind.symbol ++ " " ++ path.text

def problemLines (style : ReportStyle) (problem : Problem) : List String :=
  [style.marker .error (markerText .error problem.path) ++ " " ++ style.punctuation "=" ++ " "
      ++ problem.value.inspect,
    "  " ++ problem.message, ""]

def noticeLines (style : ReportStyle) (kind : DiagnosticKind) (notice : Notice) : List String :=
  style.marker kind (markerText kind notice.path)
    :: notice.messages.map (fun message => "  " ++ message) ++ [""]

/-- A section with its heading; one without blocks is left out. -/
def sectionLines (style : ReportStyle) (kind : DiagnosticKind) (blocks : List (List String)) :
    List String :=
  if blocks.isEmpty then []
  else [style.heading kind (kind.sectionHeading blocks.length), ""] ++ blocks.flatten

def lines (report : Report) (style : ReportStyle) : List String :=
  let title := [style.title ("sprout config report for " ++ report.sourceText), ""]
  if report.hasSomethingToReport then
    title
      ++ sectionLines style .error (report.errors.map (problemLines style))
      ++ sectionLines style .deprecation (report.deprecations.map (noticeLines style .deprecation))
      ++ sectionLines style .hint (report.hints.map (noticeLines style .hint))
  else title ++ [style.success "✔ Nothing to report!"]

/-- The report as text: title, errors, deprecations and hints. -/
def renderWith (report : Report) (style : ReportStyle) : String :=
  String.intercalate "\n" (report.lines style)

def render (report : Report) : String :=
  report.renderWith .plain

end Report

end BuildConfig
