import BuildConfig.Value

namespace BuildConfig

namespace Value

/-- Text between single quotes, with backslashes and single quotes escaped. -/
def quote (text : String) : String :=
  let escaped := text.toList.flatMap fun c =>
    if c = '\\' ∨ c = '\'' then ['\\', c] else [c]
  "'" ++ String.ofList escaped ++ "'"

def isIdentifierStart (c : Char) : Bool :=
  c.isAlpha || c == '_' || c == '$'

/-- ASCII identifiers are keys that need no quotes. -/
def isIdentifier (key : String) : Bool :=
  match key.toList with
  | [] => false
  | first :: rest => isIdentifierStart first && rest.all fun c => isIdentifierStart c || c.isDigit

def inspectKey (key : String) : String :=
  if isIdentifier key then key else quote key

mutual

/-- The tree on one line, as it would be written in a script. -/
def inspect : Value → String
  | .null => "null"
  | .bool value => if value then "true" else "false"
  | .number value => value.text
  | .string text => quote text
  | .pattern source => "/" ++ source ++ "/"
  | .array [] => "[]"
  | .array (item :: rest) => "[ " ++ inspect item ++ inspectItems rest ++ " ]"
  | .map [] => "\x7b\x7d"
  | .map ((key, value) :: rest) =>
    "\x7b " ++ inspectKey key ++ ": " ++ inspect value ++ inspectEntries rest ++ " \x7d"
  | .function _ => "[Function]"

/-- Further items, each after a comma. -/
def inspectItems : List Value → String
  | [] => ""
  | item :: rest => ", " ++ inspect item ++ inspectItems rest

/-- Further entries, each after a comma. -/
def inspectEntries : List (String × Value) → String
  | [] => ""
  | (key, value) :: rest =>
    ", " ++ inspectKey key ++ ": " ++ inspect value ++ inspectEntries rest

end

end Value

end BuildConfig
