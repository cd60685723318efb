import BuildConfig.Value

namespace BuildConfig

/-- A test-runner plugin to load: its identifier, such as `framework:mocha`, and what to load it
with. -/
structure PluginDefinition where
  identifier : String
  arguments : List Value

/-- An item of a plugin list. -/
inductive PluginEntry where
  | bare (name : String)
  | defined (definition : PluginDefinition)

/-- What the user says about the plugins of the test runner; lists that are not given are `none`. -/
structure PluginOptions where
  coverage : Bool
  browsers : Option (List PluginEntry)
  frameworks : Option (List PluginEntry)
  reporters : Option (List PluginEntry)
  plugins : Option (List PluginEntry)

/-- The plugins that tests are run with. -/
structure PluginSet where
  browsers : List String
  frameworks : List String
  reporters : List String
  plugins : List PluginEntry

namespace PluginDefinition

/-- A definition that is loaded from a package. -/
def ofPackage (identifier package : String) : PluginDefinition :=
  ⟨identifier, [.string "module", .string package]⟩

/-- The part of the identifier after its first colon; all of it when there is none. -/
def name (definition : PluginDefinition) : String :=
  match definition.identifier.toList.dropWhile (· != ':') with
  | [] => definition.identifier
  | _ :: name => String.ofList name

/-- A definition is written as a map of its identifier to its arguments. -/
def ofValue? : Value → Option PluginDefinition
  | .map [(identifier, .array arguments)] => some ⟨identifier, arguments⟩
  | _ => none

def toValue (definition : PluginDefinition) : Value :=
  .map [(definition.identifier, .array definition.arguments)]

end PluginDefinition

namespace PluginEntry

def ofValue? : Value → Option PluginEntry
  | .string name => some (.bare name)
  | other => (PluginDefinition.ofValue? other).map .defined

def toValue : PluginEntry → Value
  | .bare name => .string name
  | .defined definition => definition.toValue

/-- The entries of a list. Items that are no entries are skipped, and a value that is no array has
none. -/
def listOfValue : Value → List PluginEntry
  | .array items => items.filterMap ofValue?
  | _ => []

def definition? : PluginEntry → Option PluginDefinition
  | .bare _ => none
  | .defined definition => some definition

def bareName? : PluginEntry → Option String
  | .bare name => some name
  | .defined _ => none

/-- The name of a plugin, whichever way it is given. -/
def pluginName : PluginEntry → String
  | .bare name => name
  | .defined definition => definition.name

/-- The first definition with an identifier. -/
def find? (entries : List PluginEntry) (identifier : String) : Option PluginDefinition :=
  (entries.filterMap definition?).find? fun definition => definition.identifier == identifier

end PluginEntry

namespace PluginOptions

/-- The options in a namespace of the configuration. -/
def ofEntries (karma : Entries Value) (coverage : Bool) : PluginOptions :=
  let list (key : String) := (Entries.get? karma key).map PluginEntry.listOfValue
  ⟨coverage, list "browsers", list "frameworks", list "reporters", list "plugins"⟩

/-- The names in a list, or those that stand in when there is no list. -/
def namesOr (entries : Option (List PluginEntry)) (standIn : List String) : List String :=
  match entries with
  | some entries => entries.map PluginEntry.pluginName
  | none => standIn

def definitionsIn (entries : Option (List PluginEntry)) : List PluginDefinition :=
  (entries.getD []).filterMap PluginEntry.definition?

def browserNames (options : PluginOptions) : List String :=
  namesOr options.browsers ["PhantomJS"]

def frameworkNames (options : PluginOptions) : List String :=
  namesOr options.frameworks ["mocha"]

/-- The reporter of the default framework goes with that framework only. -/
def reporterNames (options : PluginOptions) : List String :=
  namesOr options.reporters (if options.frameworks.isNone then ["mocha"] else ["dots"])
    ++ if options.coverage then ["coverage"] else []

/-- The user's definitions, list by list. -/
def userDefinitions (options : PluginOptions) : List PluginDefinition :=
  definitionsIn options.browsers ++ definitionsIn options.frameworks
    ++ definitionsIn options.reporters ++ definitionsIn options.plugins

def isUserSupplied (options : PluginOptions) (identifier : String) : Bool :=
  options.userDefinitions.any fun definition => definition.identifier == identifier

/-- A built-in definition, if it is wanted and the user has none of its identifier. -/
def builtinUnlessSupplied (options : PluginOptions) (wanted : Bool) (identifier package : String) :
    List PluginDefinition :=
  if wanted && !options.isUserSupplied identifier then [.ofPackage identifier package] else []

/-- The built-in definitions. Those for bundling are always there, and those for coverage whenever
it is on. -/
def builtins (options : PluginOptions) : List PluginDefinition :=
  let mocha := options.frameworkNames.contains "mocha"
  [.ofPackage "preprocessor:sourcemap" "karma-sourcemap-loader",
    .ofPackage "webpackPlugin" "karma-webpack",
    .ofPackage "preprocessor:webpack" "karma-webpack"]
  ++ options.builtinUnlessSupplied (options.browserNames.contains "PhantomJS")
    "launcher:PhantomJS" "karma-phantomjs-launcher"
  ++ options.builtinUnlessSupplied (options.browserNames.contains "Chrome")
    "launcher:Chrome" "karma-chrome-launcher"
  ++ options.builtinUnlessSupplied mocha "framework:mocha" "karma-mocha"
  ++ options.builtinUnlessSupplied mocha "reporter:mocha" "karma-mocha-reporter"
  ++ if options.coverage then
      [.ofPackage "preprocessor:coverage" "karma-coverage",
        .ofPackage "reporter:coverage" "karma-coverage"]
    else []

/-- The plugins to run tests with: built-in definitions, the user's definitions, and the bare names
of the plugin list. -/
def resolve (options : PluginOptions) : PluginSet where
  browsers := options.browserNames
  frameworks := options.frameworkNames
  reporters := options.reporterNames
  plugins := (options.builtins ++ options.userDefinitions).map .defined
    ++ ((options.plugins.getD []).filterMap PluginEntry.bareName?).map .bare

end PluginOptions

namespace PluginSet

def names (list : List String) : Value :=
  .array (list.map .string)

def entries (set : PluginSet) : Entries Value :=
  [("browsers", names set.browsers), ("frameworks", names set.frameworks),
    ("reporters", names set.reporters), ("plugins", .array (set.plugins.map PluginEntry.toValue))]

def toValue (set : PluginSet) : Value :=
  .map set.entries

end PluginSet

end BuildConfig
