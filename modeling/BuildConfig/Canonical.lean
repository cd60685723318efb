import BuildConfig.Report
import BuildConfig.Value.Edit

namespace BuildConfig

/-- A key that has moved. -/
structure Rename where
  source : List String
  target : List String

/-- A value that stands for a map with a single key. -/
structure Shorthand where
  path : List String
  accepts : Value → Bool
  key : String

/-- A place in a map that is passed on as it is, for which there is an option of its own. -/
structure Recommendation where
  path : List String
  instead : String

def renames : List Rename :=
  [⟨["webpack", "uglify"], ["webpack", "terser"]⟩,
    ⟨["karma", "testDirs"], ["karma", "excludeFromCoverage"]⟩]

def shorthands : List Shorthand :=
  [⟨["npm", "umd"], fun value => value.asString?.isSome, "global"⟩,
    ⟨["webpack", "autoprefixer"], fun value => value.asString?.isSome, "browsers"⟩,
    ⟨["webpack", "copy"], Value.isArray, "patterns"⟩]

def recommendations : List Recommendation :=
  [⟨["webpack", "extra", "resolve", "alias"], "webpack.aliases"⟩,
    ⟨["webpack", "extra", "output", "publicPath"], "webpack.publicPath"⟩]

def dotted (path : List String) : String :=
  String.intercalate "." path

namespace Rename

def deprecation (rename : Rename) (advice : String) : Finding :=
  .deprecation ⟨Path.ofKeys rename.source,
    ["Deprecated in favour of " ++ dotted rename.target, advice]⟩

/-- Moves the value under the old key to the new one, unless there is one already. -/
def apply (rename : Rename) (config : Value) : Value × List Finding :=
  match config.takePath? rename.source with
  | none => (config, [])
  | some (value, left) =>
    if (left.getPath? rename.target).isSome then
      (left, [rename.deprecation
        (dotted rename.target ++ " is also set, so this value was ignored")])
    else
      (left.insertPath rename.target value, [rename.deprecation
        ("Rename " ++ dotted rename.source ++ " to " ++ dotted rename.target
          ++ " in your config")])

end Rename

/-- Writes the map that a shorthand stands for. A map is no shorthand, so a second time there is
nothing to do. -/
def Shorthand.expand (shorthand : Shorthand) (config : Value) : Value :=
  match config.getPath? shorthand.path with
  | some value =>
    if shorthand.accepts value then
      config.insertPath shorthand.path (.map [(shorthand.key, value)])
    else config
  | none => config

def Recommendation.findings (recommendation : Recommendation) (config : Value) : List Finding :=
  if (config.getPath? recommendation.path).isSome then
    [.hint ⟨Path.ofKeys recommendation.path,
      ["You can use the more convenient " ++ recommendation.instead ++ " config instead"]⟩]
  else []

/-- Brings a configuration to canonical form: moved keys first, then shorthands. What is deprecated
or could be said better is reported. A tree that is no map is left alone. -/
def canonicalize (config : Value) : Value × List Finding :=
  if config.isMap then
    let (renamed, deprecations) := renames.foldl (fun (config, findings) rename =>
      let (next, found) := rename.apply config
      (next, findings ++ found)) (config, [])
    let expanded := shorthands.foldl (fun config shorthand => shorthand.expand config) renamed
    (expanded, deprecations ++ recommendations.flatMap fun advice => advice.findings expanded)
  else (config, [])

end BuildConfig
