import BuildConfig.Value.Edit

namespace BuildConfig

/-- What becomes of an array in both trees of a merge: the upper one replaces the lower one or is
appended to it. -/
inductive ArrayMerge where
  | replace
  | concat
  deriving DecidableEq

/-- How two trees are merged: the rule for arrays, and the paths at which they are appended in any
case. -/
structure MergeStrategy where
  arrays : ArrayMerge
  concatFields : List (List String)

namespace MergeStrategy

def replacing : MergeStrategy := ⟨.replace, []⟩

def concatenating : MergeStrategy := ⟨.concat, []⟩

def concatenatesAt (strategy : MergeStrategy) (path : List String) : Bool :=
  strategy.concatFields.contains path || strategy.arrays == .concat

end MergeStrategy

namespace Value

mutual

/-- Lays the second tree, which is at a path, over the first. Maps are merged key by key, null never
covers anything, and every other value covers what is below it. -/
def mergeAt (strategy : MergeStrategy) (path : List String) : Value → Value → Value
  | base, .null => base
  | .map base, .map overlay => .map (mergeEntries strategy path base overlay)
  | .array base, .array overlay =>
    if strategy.concatenatesAt path then .array (base ++ overlay) else .array overlay
  | _, overlay => overlay

/-- Lays entries over a map one by one: a key that is present keeps its place, a new one comes
last. -/
def mergeEntries (strategy : MergeStrategy) (path : List String) (base : Entries Value) :
    List (String × Value) → Entries Value
  | [] => base
  | (key, value) :: rest =>
    let merged :=
      if value.isNull then base
      else match Entries.get? base key with
        | some existing => Entries.insert base key (mergeAt strategy (path ++ [key]) existing value)
        | none => Entries.insert base key value
    mergeEntries strategy path merged rest

end

/-- The second tree laid over the first. -/
def mergeWith (strategy : MergeStrategy) (base overlay : Value) : Value :=
  mergeAt strategy [] base overlay

/-- The second tree laid over the first, arrays included. -/
def merge (base overlay : Value) : Value :=
  mergeWith .replacing base overlay

end Value

/-- The namespaces that every compiled configuration has. -/
def namespaces : List String := ["babel", "devServer", "karma", "npm", "webpack"]

/-- The configuration with every namespace as an empty map. -/
def baseline : Value :=
  .map (namespaces.map fun name => (name, Value.empty))

/-- The strategy for layers: presets and plugins of the transpiler accumulate. -/
def layerStrategy : MergeStrategy :=
  ⟨.replace, [["babel", "presets"], ["babel", "plugins"]]⟩

/-- Layers of configuration laid over each other, the lowest first. -/
def mergeLayers (layers : List Value) : Value :=
  layers.foldl (Value.mergeWith layerStrategy) Value.empty

end BuildConfig
