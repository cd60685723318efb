import BuildConfig.Value

namespace BuildConfig

namespace Value

mutual

/-- Equality of trees: numbers by value, maps as sets of entries, so that the order of keys does not
count at any depth. -/
def same : Value → Value → Bool
  | .null, .null => true
  | .bool a, .bool b => a == b
  | .number a, .number b => a.sameValue b
  | .string a, .string b => a == b
  | .pattern a, .pattern b => a == b
  | .array a, .array b => sameItems a b
  | .map a, .map b => a.length == b.length && sameEntries a b
  | .function a, .function b => a == b
  | _, _ => false

/-- Items agree position by position. -/
def sameItems : List Value → List Value → Bool
  | [], [] => true
  | a :: as, b :: bs => a.same b && sameItems as bs
  | _, _ => false

/-- Each entry of the first table has an equal value in the second. -/
def sameEntries : List (String × Value) → List (String × Value) → Bool
  | [], _ => true
  | (key, a) :: rest, other =>
    (match Entries.get? other key with
      | some b => a.same b
      | none => false) && sameEntries rest other

end

mutual

/-- No map of the tree, at any depth, holds a key twice. -/
def DistinctKeys : Value → Prop
  | .array items => DistinctKeysItems items
  | .map entries => Entries.Distinct entries ∧ DistinctKeysEntries entries
  | _ => True

def DistinctKeysItems : List Value → Prop
  | [] => True
  | item :: rest => item.DistinctKeys ∧ DistinctKeysItems rest

def DistinctKeysEntries : List (String × Value) → Prop
  | [] => True
  | (_, value) :: rest => value.DistinctKeys ∧ DistinctKeysEntries rest

end

end Value

end BuildConfig
