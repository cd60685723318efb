import BuildConfig.Preprocessors
import BuildConfig.Project
import BuildConfig.Schema

namespace BuildConfig

namespace Schema

def babel : Schema :=
  record.withFields
    [("cherryPick", ofKinds [.string, .array]),
      ("env", ofKind .object),
      ("loose", ofKind .boolean),
      ("plugins", ofKind .array),
      ("presets", ofKind .array),
      ("proposals", (ofKind .object).orFalse),
      ("react", ofKinds [.string, .object]),
      ("reactConstant", ofKind .boolean),
      ("removePropTypes", (ofKind .object).orFalse),
      ("runtime", (ofKind .boolean).orChoices ["helpers", "polyfill"]),
      ("config", ofKind .function)]

/-- A test-runner plugin: its name, or a map of its one identifier to its arguments. -/
def testPlugin : Schema :=
  ((ofKinds [.string, .object]).withSingleEntry (ofKind .array)).describedAs
    "a plugin name or a single-key plugin definition"

def testPluginList : Schema :=
  (ofKind .array).withItems testPlugin

def karma : Schema :=
  record.withFields
    [("browsers", testPluginList),
      ("excludeFromCoverage", ofKinds [.string, .array]),
      ("frameworks", testPluginList),
      ("plugins", testPluginList),
      ("reporters", testPluginList),
      ("testContext", ofKind .string),
      ("testFiles", ofKinds [.string, .array]),
      ("extra", ofKind .object),
      ("config", ofKind .function)]

def umd : Schema :=
  record.orFalse.withFields
    [("entry", ofKind .string),
      ("global", ofKind .string),
      ("externals", ofKind .object)]

def npm : Schema :=
  record.withFields
    [("cjs", ofKind .boolean),
      ("esModules", ofKind .boolean),
      ("umd", umd)]

def locales : Schema :=
  record.withField "locales" (ofKind .array)

def compat : Schema :=
  record.withFields
    [("enzyme", ofKind .boolean),
      ("intl", locales),
      ("moment", locales),
      ("react-intl", locales),
      ("sinon", ofKind .boolean)]

def copy : Schema :=
  (record.withFields
    [("patterns", ofKind .array),
      ("options", ofKind .object)]).requiringAny ["patterns", "options"]

/-- A condition on file paths. -/
def condition : Schema :=
  ofKinds [.string, .pattern, .array, .function]

/-- A module rule. It is open: other keys are options of its loader. -/
def rule : Schema :=
  (ofKind .object).withFields
    [("test", ofKinds [.pattern, .string]),
      ("include", condition),
      ("exclude", condition),
      ("loader", ofKind .string),
      ("use", ofKind .array),
      ("options", ofKind .object)]

def styleRuleProps (unexpected allowed : List String) : String :=
  "Must be a style rule object using only these props: " ++ String.intercalate ", " allowed
    ++ " (unexpected: " ++ String.intercalate ", " unexpected ++ ")"

/-- A rule for one style type, with a key for each of its loaders. -/
def styleEntry (loaderNames : List String) : Schema :=
  (((ofKind .object).closedWith styleRuleProps).withFields
    [("include", condition),
      ("exclude", condition),
      ("loaders", (ofKind .object).withValues (ofKind .object))]).withFields
    (loaderNames.map fun name => (name, ofKind .object))

def unknownStyleType (unexpected allowed : List String) : String :=
  "Unknown style type" ++ pluralEnding unexpected.length ++ ": "
    ++ String.intercalate ", " unexpected ++ " - must be one of: "
    ++ String.intercalate ", " allowed

def styles (plugins : Preprocessors) : Schema :=
  ((ofKind .object).orFalse.closedWith unknownStyleType).withFields
    (plugins.styleTypes.map fun styleType =>
      (styleType, (ofKind .array).withItems (styleEntry (plugins.loaderNamesFor styleType))))

def webpack (plugins : Preprocessors) : Schema :=
  record.withFields
    [("aliases", (ofKind .object).withValues (ofKind .string)),
      ("autoprefixer", (ofKind .object).orFalse),
      ("compat", compat),
      ("copy", copy),
      ("debug", ofKind .boolean),
      ("define", ofKind .object),
      ("extractCSS", ofKinds [.boolean, .object]),
      ("hoisting", ofKind .boolean),
      ("html", ofKind .object),
      ("install", ofKind .object),
      ("publicPath", ofKind .string),
      ("rules", (ofKind .object).withValues rule),
      ("styles", styles plugins),
      ("terser", ofKinds [.boolean, .object]),
      ("extra", ofKind .object),
      ("config", ofKind .function)]

/-- The shape of a whole user configuration. The style types depend on the installed plugins. -/
def userConfig (plugins : Preprocessors) : Schema :=
  record.withFields
    [("type", ofChoices (ProjectType.all.map ProjectType.name)),
      ("babel", babel),
      ("devServer", ofKind .object),
      ("karma", karma),
      ("npm", npm),
      ("webpack", webpack plugins)]

end Schema

end BuildConfig
