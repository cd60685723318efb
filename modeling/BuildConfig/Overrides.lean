import BuildConfig.Defaults
import BuildConfig.Text.Blank
import BuildConfig.Text.Digits

namespace BuildConfig

/-- A flag that is a truth value or one of its spellings. -/
def truthValue? : Value → Option Bool
  | .bool value => some value
  | .string text =>
    if ["0", "false", "no", "off"].contains text then some false
    else if ["1", "true", "yes", "on"].contains text then some true
    else none
  | _ => none

/-- A port number in decimal digits, with or without a plus sign, below 2 ^ 16. -/
def readPort? (text : String) : Option Nat :=
  let digits := match text.toList with
    | '+' :: rest => rest
    | all => all
  (Text.decimal? digits).filter (· < Nat.pow 2 16)

/-- A text that reads as a port becomes a number; everything else stays, for the check to judge. -/
def portValue : Value → Value
  | .string text =>
    match readPort? text with
    | some port => .ofInt port
    | none => .string text
  | other => other

/-- The items of a list separated by commas, without blanks around them and without empty ones. -/
def listItems (text : String) : List String :=
  ((Text.fields ',' text.toList).map Text.trim).filterMap fun item =>
    if item.isEmpty then none else some (String.ofList item)

/-- Puts a value, if there is one, at a path. -/
def Value.insertSome (config : Value) (path : List String) : Option Value → Value
  | some value => config.insertPath path value
  | none => config

/-- The library name of a universal build, or that there is to be none. -/
def umdFlag? (args : Arguments) : Option Value :=
  match args.flag? "umd" with
  | some (.string name) => some (.string name)
  | some (.bool false) => some (.bool false)
  | _ => none

/-- The configuration that flags stand for, shorthands left as they are: it is brought to canonical
form and checked like the user's. -/
def commandLineOverrides (args : Arguments) : Value :=
  let assignments : List (List String × Option Value) :=
    [(["type"], args.flag? "type"),
      (["npm", "umd"], umdFlag? args),
      (["npm", "esModules"], ((args.flag? "es-modules").bind truthValue?).map .bool),
      (["babel", "removePropTypes"], if keepsPropTypes args then some (.bool false) else none),
      (["karma", "browsers"],
        (args.flagText? "browsers").map fun text => .array ((listItems text).map .string)),
      (["devServer", "host"], (args.flagText? "host").map .string),
      (["devServer", "port"], (args.flag? "port").map portValue),
      (["devServer", "open"], args.flag? "open")]
  assignments.foldl (fun config (path, value) => config.insertSome path value) .empty

/-- Some flag stands for configuration. -/
def hasOverrides (args : Arguments) : Bool :=
  !(commandLineOverrides args).entries.isEmpty

end BuildConfig
