import BuildConfig.Json.Config
import BuildConfig.Toml.Reader

namespace BuildConfig

/-- The number of a configuration, if it is finite. -/
def Toml.TomlFloat.number : Toml.TomlFloat → Except ReadFault Number
  | .finite value => .ok (.float value)
  | .infinite negative => .error (.unsupportedNumber (if negative then "-inf" else "inf"))
  | .notANumber => .error (.unsupportedNumber "NaN")

namespace Value

section Compiled

variable (compiles : String → Bool)

mutual

/-- The tree that a document stands for. Dates become text; a table with the source of a regular
expression as its only entry becomes a pattern, at any depth. -/
def ofToml : Toml.TomlValue → Except ReadFault Value
  | .string text => .ok (.string text)
  | .integer value => .ok (.ofInt value)
  | .float value => value.number.map .number
  | .boolean value => .ok (.bool value)
  | .dateTime value => .ok (.string value.text)
  | .array items => (ofTomlItems items).map .array
  | .table [(name, .string source)] =>
    if name = patternKey then ofPattern compiles source else .ok (.map [(name, .string source)])
  | .table entries => (ofTomlEntries entries).map .map

def ofTomlItems : List Toml.TomlValue → Except ReadFault (List Value)
  | [] => .ok []
  | item :: rest => do
    let item ← ofToml item
    let rest ← ofTomlItems rest
    return item :: rest

def ofTomlEntries : List (String × Toml.TomlValue) → Except ReadFault (List (String × Value))
  | [] => .ok []
  | (key, value) :: rest => do
    let value ← ofToml value
    let rest ← ofTomlEntries rest
    return (key, value) :: rest

end

end Compiled

end Value

end BuildConfig
