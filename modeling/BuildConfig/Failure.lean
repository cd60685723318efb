import BuildConfig.Project
import BuildConfig.Report

namespace BuildConfig

/-- What ends a command before its result. -/
inductive Failure where
  | configNotFound (path : String)
  | configImport (path : String) (cause : String)
  | configValidation (report : Report)
  | unknownProjectType (name : String)
  | io (action : String) (cause : String)

namespace Failure

def message : Failure → String
  | .configNotFound path => "Couldn't find a config file at " ++ path
  | .configImport path cause => "Couldn't import the config file at " ++ path ++ ": " ++ cause
  | .configValidation report => report.summary
  | .unknownProjectType name => "Unknown project type '" ++ name ++ "'"
  | .io action _ => "IO error: " ++ action

/-- What a user can do about it. -/
def suggestion? : Failure → Option String
  | .configNotFound _ =>
    some "Create a sprout.config.json file or point --config at an existing one"
  | .configImport _ _ => some "Check the config file for syntax errors"
  | .configValidation _ => some "Run 'sprout check-config' to see the full config report"
  | .unknownProjectType _ =>
    some ("Project type must be one of: "
      ++ String.intercalate ", " (ProjectType.all.map ProjectType.name))
  | .io _ _ => none

/-- The failure lies in the configuration file itself and not in what it says. -/
def isLoadFailure : Failure → Bool
  | .configNotFound _ => true
  | .configImport _ _ => true
  | _ => false

def report? : Failure → Option Report
  | .configValidation report => some report
  | _ => none

/-- The lower-level cause, which is shown apart from the message. -/
def cause? : Failure → Option String
  | .io _ cause => some cause
  | _ => none

end Failure

end BuildConfig
