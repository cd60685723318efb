import BuildConfig.Value

namespace BuildConfig

/-- A JSON document. The members of an object are in order; reading a text leaves no name twice. -/
inductive Json where
  | null
  | bool (value : Bool)
  | number (value : Number)
  | string (text : String)
  | array (items : List Json)
  | object (members : List (String × Json))
  deriving Inhabited

namespace Value

mutual

/-- The tree as JSON. A pattern becomes its source between slashes, and a function a label. -/
def toJson : Value → Json
  | .null => .null
  | .bool value => .bool value
  | .number value => .number value
  | .string text => .string text
  | .pattern source => .string ("/" ++ source ++ "/")
  | .array items => .array (toJsonItems items)
  | .map entries => .object (toJsonEntries entries)
  | .function _ => .string "[Function]"

def toJsonItems : List Value → List Json
  | [] => []
  | item :: rest => item.toJson :: toJsonItems rest

def toJsonEntries : List (String × Value) → List (String × Json)
  | [] => []
  | (key, value) :: rest => (key, value.toJson) :: toJsonEntries rest

end

end Value

end BuildConfig
