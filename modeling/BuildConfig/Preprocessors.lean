import BuildConfig.Value

namespace BuildConfig

/-- The style preprocessors that installed plugins register, with their configurations by id. -/
structure Preprocessors where
  registered : Entries Value

namespace Preprocessors

def empty : Preprocessors := ⟨[]⟩

def ids (plugins : Preprocessors) : List String :=
  Entries.keys plugins.registered

/-- Registers a preprocessor; a second registration of an id overwrites the first. -/
def register (plugins : Preprocessors) (id : String) (config : Value) : Preprocessors :=
  ⟨Entries.insert plugins.registered id config⟩

/-- Adds the registrations of another plugin; the earlier ones win. -/
def merge (plugins other : Preprocessors) : Preprocessors :=
  ⟨other.registered.foldl (fun known (id, config) => Entries.insertNew known id config)
    plugins.registered⟩

/-- The loaders of every style type. -/
def baseLoaders : List String := ["style", "css", "postcss"]

/-- The style types that a configuration can have rules for. -/
def styleTypes (plugins : Preprocessors) : List String :=
  "css" :: plugins.ids

/-- Every known loader. -/
def loaderNames (plugins : Preprocessors) : List String :=
  baseLoaders ++ plugins.ids

/-- The loaders of one style type: the base ones, and its preprocessor if it has one. -/
def loaderNamesFor (plugins : Preprocessors) (styleType : String) : List String :=
  baseLoaders ++ if Entries.contains plugins.registered styleType then [styleType] else []

end Preprocessors

end BuildConfig
