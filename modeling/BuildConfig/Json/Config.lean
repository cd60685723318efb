import BuildConfig.Json
import BuildConfig.ReadFault

namespace BuildConfig

/-- The key of the single-entry map that stands for a regular expression. -/
def patternKey : String := "$regex"

namespace Value

section Compiled

/-! Which sources compile is for the engine of regular expressions to say. -/

variable (compiles : String → Bool)

/-- The pattern with a source, if that compiles. -/
def ofPattern (source : String) : Except ReadFault Value :=
  if compiles source then .ok (.pattern source) else .error (.pattern source)

mutual

/-- The tree that a document stands for. An object with the source of a regular expression as its
only member becomes a pattern, at any depth. -/
def ofJson : Json → Except ReadFault Value
  | .null => .ok .null
  | .bool value => .ok (.bool value)
  | .number value => .ok (.number value)
  | .string text => .ok (.string text)
  | .array items => (ofJsonItems items).map .array
  | .object [(name, .string source)] =>
    if name = patternKey then ofPattern compiles source else .ok (.map [(name, .string source)])
  | .object members => (ofJsonMembers members).map .map

def ofJsonItems : List Json → Except ReadFault (List Value)
  | [] => .ok []
  | item :: rest => do
    let item ← ofJson item
    let rest ← ofJsonItems rest
    return item :: rest

def ofJsonMembers : List (String × Json) → Except ReadFault (List (String × Value))
  | [] => .ok []
  | (name, value) :: rest => do
    let value ← ofJson value
    let rest ← ofJsonMembers rest
    return (name, value) :: rest

end

end Compiled

end Value

end BuildConfig
