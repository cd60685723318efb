import BuildConfig.Failure
import BuildConfig.Toml.Config
import BuildConfig.Workspace
import BuildConfig.Workspace.Manifest

namespace BuildConfig

/-- A configuration file with what it says. -/
structure LoadedConfig where
  path : String
  config : Value

/-- The names of configuration files, in the order in which they are looked for. -/
def configFileNames : List String := ["sprout.config.json", "sprout.config.toml"]

/-- Reads the text of a configuration file; the extension decides on the format. -/
def readConfig (compiles : String → Bool) (path text : String) : Except ReadFault Value :=
  if pathExtension? path == some "toml" then
    match Toml.ofText? text with
    | none => .error .toml
    | some document =>
      match document.settled? with
      | some document => Value.ofToml compiles document
      | none => .error .tomlDate
  else
    match Json.ofText? text with
    | some document => Value.ofJson compiles document
    | none => .error .json

namespace Workspace

def importFailure (path : String) (fault : ReadFault) : Failure :=
  .configImport path fault.message

def checkFailure (path : String) (fault : FileFault) : Failure :=
  .io ("Failed to check " ++ path) fault.message

def readFailure (path : String) (fault : FileFault) : Failure :=
  .io ("Failed to read " ++ path) fault.message

def hasFile (files : Workspace) (path : String) : Except Failure Bool :=
  (files.contains path).mapError (checkFailure path)

/-- The path of the first of the files that is there. -/
def findFirst (files : Workspace) : List String → Except Failure (Option String)
  | [] => .ok none
  | name :: rest => do
    let path := files.pathOf name
    if ← files.hasFile path then return some path
    files.findFirst rest

/-- The path of the configuration file that is used unless another one is asked for. -/
def findConfig (files : Workspace) : Except Failure (Option String) :=
  files.findFirst configFileNames

/-- The path to load from. A file that is asked for has to be there, and one of the usual name
when a configuration is required. -/
def configPath (files : Workspace) (asked : Option String) (required : Bool) :
    Except Failure (Option String) :=
  match asked with
  | some path => do
    let path := files.pathOf path
    if ← files.hasFile path then return some path
    throw (.configNotFound path)
  | none => do
    match ← files.findConfig with
    | some path => return some path
    | none =>
      if required then throw (.configNotFound (files.pathOf (configFileNames.headD "")))
      return none

section Compiled

variable (compiles : String → Bool)

/-- Loads the configuration file, if there is one. -/
def loadConfig (files : Workspace) (asked : Option String) (required : Bool) :
    Except Failure (Option LoadedConfig) := do
  match ← files.configPath asked required with
  | none => return none
  | some path =>
    let text ← (files.read path).mapError (readFailure path)
    let config ← (readConfig compiles path text).mapError (importFailure path)
    return some ⟨path, config⟩

/-- The manifest of an installed plugin. -/
def pluginManifestPath (files : Workspace) (name : String) : String :=
  joinPath (joinPath (files.pathOf "node_modules") name) "sprout-plugin.json"

/-- What a package registers. One without a manifest registers nothing. -/
def loadPlugin (files : Workspace) (name : String) : Except Failure (Option Preprocessors) :=
  let path := files.pluginManifestPath name
  match files.read path with
  | .ok text => ((Preprocessors.ofManifest compiles text).mapError (importFailure path)).map some
  | .error .notFound => .ok none
  | .error fault => .error (readFailure path fault)

/-- The names of the dependencies that are plugins. -/
def pluginNames (manifest : PackageManifest) : List String :=
  manifest.dependencyNames.filter fun name => "sprout-".toList.isPrefixOf name.toList

/-- What the installed plugins register, in the order of the dependencies; a project without a
package manifest has none. -/
def scanPlugins (files : Workspace) : Except Failure Preprocessors :=
  let path := files.pathOf "package.json"
  match files.read path with
  | .error .notFound => .ok .empty
  | .error fault => .error (readFailure path fault)
  | .ok text => do
    let manifest ← (PackageManifest.read text).mapError (importFailure path)
    (pluginNames manifest).foldlM (fun plugins name => do
      match ← files.loadPlugin compiles name with
      | some plugin => return plugins.merge plugin
      | none => return plugins) .empty

end Compiled

end Workspace

end BuildConfig
