import BuildConfig.Failure
import BuildConfig.Report.Layout

namespace BuildConfig

/-- Terminal colours, on or off. -/
structure Palette where
  enabled : Bool

namespace Palette

/-- Text between a terminal attribute and its reset; plain when colours are off. -/
def paint (palette : Palette) (code : String) (text : String) : String :=
  if palette.enabled then "\x1b[" ++ code ++ "m" ++ text ++ "\x1b[0m" else text

def green (palette : Palette) : String → String := palette.paint "32"
def yellow (palette : Palette) : String → String := palette.paint "33"
def red (palette : Palette) : String → String := palette.paint "31"
def cyan (palette : Palette) : String → String := palette.paint "36"
def dim (palette : Palette) : String → String := palette.paint "2"
def bold (palette : Palette) : String → String := palette.paint "1"

/-- Underlined text, in the colour of a code if one is given. -/
def underline (palette : Palette) (colour : Option String) : String → String :=
  match colour with
  | some code => palette.paint (code ++ ";4")
  | none => palette.paint "4"

/-- The colour code of a kind of finding. -/
def kindCode : DiagnosticKind → String
  | .error => "31"
  | .deprecation => "33"
  | .hint => "36"

/-- Headings and markers in the colour of their kind. -/
def reportStyle (palette : Palette) : ReportStyle where
  title text := palette.underline none (palette.bold text)
  heading kind := palette.underline (some (kindCode kind))
  marker kind := palette.paint (kindCode kind)
  punctuation := palette.dim
  success := palette.green

def formatReport (palette : Palette) (report : Report) : String :=
  report.renderWith palette.reportStyle

def formatMessage (palette : Palette) (message : String) : String :=
  palette.red "error" ++ ": " ++ message

/-- The failure with its report if it has one, else with its suggestion, and with its cause. -/
def formatFailure (palette : Palette) (failure : Failure) : String :=
  let headline := palette.formatMessage failure.message ++ "\n"
  let body := match failure.report? with
    | some report => palette.formatReport report ++ "\n" ++ headline
    | none =>
      match failure.suggestion? with
      | some suggestion => headline ++ "\n" ++ palette.dim "help" ++ ": " ++ suggestion ++ "\n"
      | none => headline
  match failure.cause? with
  | some cause => body ++ "\n" ++ palette.dim "caused by" ++ ": " ++ cause
  | none => body

/-- A line that accompanies the work. -/
def infoLine (palette : Palette) (message : String) : String :=
  palette.dim message ++ "\n"

def successLine (palette : Palette) (message : String) : String :=
  palette.green "✓" ++ " " ++ message ++ "\n"

def warningLine (palette : Palette) (message : String) : String :=
  palette.yellow "⚠" ++ " " ++ message ++ "\n"

def errorLine (palette : Palette) (message : String) : String :=
  palette.red "✗" ++ " " ++ message ++ "\n"

end Palette

end BuildConfig
