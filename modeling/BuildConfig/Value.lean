import BuildConfig.Entries
import BuildConfig.Number

namespace BuildConfig

/-- A node of a configuration tree. Regular expressions are kept by their source and functions by a
name, so two of them are equal exactly when these agree; what a function does is supplied by whoever
applies it. -/
inductive Value where
  | null
  | bool (value : Bool)
  | number (value : Number)
  | string (text : String)
  | pattern (source : String)
  | array (items : List Value)
  | map (entries : List (String × Value))
  | function (name : String)
  deriving Inhabited

/-- What the functions of a tree do, by name. -/
abbrev Functions := String → Value → Value

namespace Value

/-- The map without entries. -/
def empty : Value := .map []

def ofInt (value : Int) : Value := .number (.int value)

def isNull : Value → Bool
  | .null => true
  | _ => false

def isMap : Value → Bool
  | .map _ => true
  | _ => false

def isArray : Value → Bool
  | .array _ => true
  | _ => false

def isFunction : Value → Bool
  | .function _ => true
  | _ => false

def asString? : Value → Option String
  | .string text => some text
  | _ => none

def asBool? : Value → Option Bool
  | .bool value => some value
  | _ => none

def asArray? : Value → Option (List Value)
  | .array items => some items
  | _ => none

def asMap? : Value → Option (Entries Value)
  | .map entries => some entries
  | _ => none

/-- The entries of a map; every other value has none. -/
def entries : Value → Entries Value
  | .map entries => entries
  | _ => []

/-- The name of the value's kind. -/
def kindName : Value → String
  | .null => "null"
  | .bool _ => "boolean"
  | .number _ => "number"
  | .string _ => "string"
  | .pattern _ => "regexp"
  | .array _ => "array"
  | .map _ => "object"
  | .function _ => "function"

end Value

end BuildConfig
