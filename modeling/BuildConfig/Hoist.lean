import BuildConfig.Preprocessors
import BuildConfig.Value.Edit

namespace BuildConfig

/-- The keys of a module rule that are not options of its loader. -/
def ruleKeys : List String := ["test", "include", "exclude", "loader", "use", "options"]

/-- Gathers the loader options of a module rule under `options`. A rule that has that key is as it
should be. -/
def hoistRule (rule : Entries Value) : Entries Value :=
  if Entries.contains rule "options" then rule
  else
    let kept := rule.filter fun (key, _) => ruleKeys.contains key
    let options := rule.filter fun (key, _) => !ruleKeys.contains key
    if options.isEmpty then kept else kept ++ [("options", .map options)]

/-- Sets the options of a loader; one that is no map is replaced. -/
def setLoaderOptions (loaders : Entries Value) (loader : String) (options : Value) :
    Entries Value :=
  let settings := ((Entries.get? loaders loader).getD Value.empty).entries
  Entries.insert loaders loader (.map (Entries.insert settings "options" options))

/-- Moves the loader keys of a style rule to `loaders.<name>.options`. The loaders come last and are
left out when there are none. -/
def hoistStyleEntry (loaderNames : List String) (entry : Entries Value) : Entries Value :=
  let others := entry.filter fun (key, _) => key != "loaders"
  let kept := others.filter fun (key, _) => !loaderNames.contains key
  let moved := others.filter fun (key, _) => loaderNames.contains key
  let declared := ((Entries.get? entry "loaders").getD Value.empty).entries
  let loaders := moved.foldl (fun loaders (key, options) => setLoaderOptions loaders key options)
    declared
  if loaders.isEmpty then kept else kept ++ [("loaders", .map loaders)]

/-- Applies a function to the entries of a map and leaves other values alone. -/
def Value.onMap (change : Entries Value → Entries Value) : Value → Value
  | .map entries => .map (change entries)
  | other => other

/-- Applies a function to the items of an array and leaves other values alone. -/
def Value.onItems (change : Value → Value) : Value → Value
  | .array items => .array (items.map change)
  | other => other

def hoistRules (rules : Entries Value) : Entries Value :=
  rules.map fun (name, rule) => (name, rule.onMap hoistRule)

def hoistStyles (loaderNames : List String) (styles : Entries Value) : Entries Value :=
  styles.map fun (styleType, rules) =>
    (styleType, rules.onItems fun rule => rule.onMap (hoistStyleEntry loaderNames))

/-- Changes the map at a path, if there is one. -/
def Value.updateMap (config : Value) (path : List String)
    (change : Entries Value → Entries Value) : Value :=
  match config.getPath? path with
  | some (.map entries) => config.insertPath path (.map (change entries))
  | _ => config

/-- Moves the loader options of module rules and style rules to where the build tools look for
them. -/
def hoistConfig (plugins : Preprocessors) (config : Value) : Value :=
  (config.updateMap ["webpack", "rules"] hoistRules).updateMap ["webpack", "styles"]
    (hoistStyles plugins.loaderNames)

end BuildConfig
