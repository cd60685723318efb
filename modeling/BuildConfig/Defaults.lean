import BuildConfig.Arguments
import BuildConfig.Project

namespace BuildConfig

/-- A library that takes the place of React. -/
inductive Compat where
  | inferno
  | preact

namespace Compat

/-- The library that flags ask for; the first of two is taken. -/
def ofArguments? (args : Arguments) : Option Compat :=
  if args.isEnabled "inferno" || args.isEnabled "inferno-compat" then some .inferno
  else if args.isEnabled "preact" || args.isEnabled "preact-compat" then some .preact
  else none

/-- The modules to use in place of those of React. -/
def aliases : Compat → Value
  | .inferno =>
    .map [("react", .string "inferno-compat"), ("react-dom", .string "inferno-compat")]
  | .preact =>
    .map [("react", .string "preact-compat/dist/preact-compat"),
      ("react-dom", .string "preact-compat/dist/preact-compat"),
      ("create-react-class", .string "preact-compat/lib/create-react-class")]

end Compat

def keepsPropTypes (args : Arguments) : Bool :=
  args.isEnabled "keep-proptypes" || args.isEnabled "proptypes"

/-- The transpiler presets of a React project. -/
def reactPresets (mode : BuildMode) (args : Arguments) : List String :=
  match mode with
  | .production => ["react", "react-prod"]
  | .development =>
    if args.isDisabled "hmr" || args.isDisabled "hmre" then ["react", "react-dev"]
    else ["react", "react-dev", "react-hmre"]
  | .test => ["react"]

def withPresets (config : Value) (presets : List String) : Value :=
  config.insertPath ["babel", "presets"] (.array (presets.map .string))

def withAliases (config : Value) (compat : Compat) : Value :=
  config.insertPath ["webpack", "aliases"] compat.aliases

/-- The defaults of React projects; aliases are for production only. -/
def reactDefaults (mode : BuildMode) (args : Arguments) : Value :=
  let config := withPresets .empty (reactPresets mode args)
  match mode, Compat.ofArguments? args with
  | .production, some compat => withAliases config compat
  | _, _ => config

/-- How property types are removed from a component. -/
def removePropTypes : BuildMode → Value
  | .production => .map [("removeImport", .bool true)]
  | _ => .map [("mode", .string "wrap")]

/-- What a type of project contributes by itself. -/
def projectDefaults (type : Option ProjectType) (mode : BuildMode) (args : Arguments) : Value :=
  match type with
  | none => .empty
  | some .reactApp => reactDefaults mode args
  | some .reactComponent =>
    let config := reactDefaults mode args
    if keepsPropTypes args then config
    else config.insertPath ["babel", "removePropTypes"] (removePropTypes mode)
  | some .preactApp => withAliases (withPresets .empty ["preact"]) .preact
  | some .infernoApp => withAliases (withPresets .empty ["inferno"]) .inferno
  | some .webApp => .empty
  | some .webModule => .empty

end BuildConfig
