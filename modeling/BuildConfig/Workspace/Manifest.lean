import BuildConfig.Json.Config
import BuildConfig.Json.Reader
import BuildConfig.Preprocessors

namespace BuildConfig

/-- What is read of the manifest of a package. -/
structure PackageManifest where
  name : Option String
  version : Option String
  dependencies : Entries String
  devDependencies : Entries String

namespace JsonText

/-- The known fields of a record, by position or by name, as far as they are there. Unknown members
are only skipped, so what they denote does not matter; a field must not come twice, and there must
be no position without a field. -/
def fields? (names : List String) : JsonText → Option (Entries JsonText)
  | .array items => if items.length ≤ names.length then some (names.zip items) else none
  | .object members => memberFields [] members
  | _ => none
where
  memberFields (read : Entries JsonText) :
      List (List Char × JsonText) → Option (Entries JsonText)
    | [] => some read
    | (name, value) :: rest => do
      let name ← textOf? name
      if names.contains name then
        if Entries.contains read name then none
        else memberFields (read ++ [(name, value)]) rest
      else memberFields read rest

/-- A string, or nothing at all. -/
def optionalText? : JsonText → Option (Option String)
  | .null => some none
  | .string escaped => (textOf? escaped).map some
  | _ => none

/-- A table of strings. -/
def textTable? : JsonText → Option (Entries String)
  | .object members =>
    members.foldlM (fun table (name, value) => do
      let name ← textOf? name
      match value with
      | .string escaped => (textOf? escaped).map (Entries.insert table name)
      | _ => none) []
  | _ => none

/-- A field that is left out has a default. -/
def fieldOr {α : Type} (fields : Entries JsonText) (name : String) (default : α)
    (read : JsonText → Option α) : Option α :=
  match Entries.get? fields name with
  | some value => read value
  | none => some default

end JsonText

namespace PackageManifest

def ofText? (text : String) : Option PackageManifest := do
  let fields ← (← JsonText.ofText? text).fields?
    ["name", "version", "dependencies", "devDependencies"]
  let name ← JsonText.fieldOr fields "name" none JsonText.optionalText?
  let version ← JsonText.fieldOr fields "version" none JsonText.optionalText?
  let dependencies ← JsonText.fieldOr fields "dependencies" [] JsonText.textTable?
  let devDependencies ← JsonText.fieldOr fields "devDependencies" [] JsonText.textTable?
  some ⟨name, version, dependencies, devDependencies⟩

def read (text : String) : Except ReadFault PackageManifest :=
  match ofText? text with
  | some manifest => .ok manifest
  | none => .error .json

/-- The names of all dependencies, in the order of the file. -/
def dependencyNames (manifest : PackageManifest) : List String :=
  Entries.keys manifest.dependencies ++ Entries.keys manifest.devDependencies

end PackageManifest

namespace Preprocessors

/-- The registrations in the text of a plugin manifest, before their configurations are converted.
-/
def documents? (text : String) : Option (Entries Json) := do
  let fields ← (← JsonText.ofText? text).fields? ["cssPreprocessors"]
  JsonText.fieldOr fields "cssPreprocessors" [] fun value =>
    match value with
    | .object members => JsonText.membersToJson? (Json.depthLimit - 2) [] members
    | _ => none

/-- Reads a plugin manifest. -/
def ofManifest (compiles : String → Bool) (text : String) : Except ReadFault Preprocessors :=
  match documents? text with
  | none => .error .json
  | some documents =>
    documents.foldlM (fun plugins (id, document) => do
      return plugins.register id (← Value.ofJson compiles document)) .empty

end Preprocessors

end BuildConfig
