import BuildConfig.Proofs.Entries.KeyOrder
import BuildConfig.Proofs.Merge.Paths
import BuildConfig.TestRunner.Config

namespace BuildConfig

theorem Value.mergeUnder_notNull? (strategy : MergeStrategy) (path : List String) (below above : Option Value) :
    mergeUnder strategy path below (notNull? above) = mergeUnder strategy path below above := by
  cases held : notNull? above with
  | none => rw [mergeUnder_none, mergeUnder, held]
  | some value =>
    obtain ⟨rfl, _⟩ := notNull?_eq_some_iff.mp held
    rfl

/-- How a file is made ready for the tests: it is bundled, and then has its source map read. -/
def filePreparation : Value :=
  .array [.string "webpack", .string "sourcemap"]

/-- Files that are named get one entry each, however often they are named. -/
theorem filePreprocessors_eq (files : List Value) :
    filePreprocessors files = (files.filterMap Value.asString?).eraseDups.map fun file => (file, filePreparation) := by
  have assigned : filePreprocessors files =
      Entries.ofList ((files.filterMap Value.asString?).map fun file => (file, filePreparation)) := by
    rw [filePreprocessors, Entries.ofList, List.foldl_map]
    rfl
  have constant : ∀ entry ∈ filePreprocessors files, entry.2 = filePreparation := by
    intro entry held
    rw [assigned] at held
    obtain ⟨file, _, rfl⟩ := List.mem_map.mp (Entries.mem_of_mem_ofList held)
    rfl
  have names : Entries.keys (filePreprocessors files) = (files.filterMap Value.asString?).eraseDups := by
    rw [assigned, Entries.keys_ofList, Entries.keys, List.map_map]
    exact congrArg List.eraseDups (List.map_id _)
  rw [Entries.eq_map_keys constant, names]

/-- The keys at which the resolved plugins are listed. -/
def pluginListKeys : List String := ["browsers", "frameworks", "reporters", "plugins"]

section Generated

variable (karma : Entries Value) (run : TestRun)

theorem get?_resolved {key : String} (listed : key ∈ pluginListKeys) :
    ∃ items, (PluginOptions.ofEntries karma run.coverage).resolve.toValue.get? key = some (.array items) := by
  simp only [pluginListKeys, List.mem_cons, List.not_mem_nil, or_false] at listed
  rcases listed with rfl | rfl | rfl | rfl <;> exact ⟨_, rfl⟩

theorem get?_generatedTestConfig_of_resolved {key : String} {value : Value}
    (resolved : (PluginOptions.ofEntries karma run.coverage).resolve.toValue.get? key = some value) :
    Entries.get? (generatedTestConfig karma run) key = some value := by
  have inSet : Entries.get? (PluginOptions.ofEntries karma run.coverage).resolve.entries key = some value := resolved
  rw [generatedTestConfig, List.append_assoc, Entries.get?_append, inSet, Option.some_or]

theorem get?_generatedTestConfig_preprocessors :
    Entries.get? (generatedTestConfig karma run) "preprocessors" =
      some (.map (filePreprocessors (testFiles karma))) :=
  rfl

end Generated

/-- The entries of the user's extra configuration. -/
def extraEntries (karma : Entries Value) : Entries Value :=
  ((Entries.get? karma "extra").getD .null).entries

section Extended

variable {functions : Functions} {karma : Entries Value} {run : TestRun}

theorem at?_extra (karma : Entries Value) (key : String) :
    (Value.map karma).at? ["extra", key] = Value.notNull? (Entries.get? (extraEntries karma) key) := by
  rw [Value.at?_cons, Value.get?_map, extraEntries]
  cases Entries.get? karma "extra" with
  | none => rfl
  | some extra =>
    rw [Option.bind_some, Value.at?, Value.getPath?_single]
    rfl

theorem distinct_extraEntries (distinct : (Value.map karma).DistinctKeys) :
    Entries.Distinct (extraEntries karma) := by
  rw [extraEntries]
  cases held : Entries.get? karma "extra" with
  | none => exact Entries.distinct_nil
  | some extra => exact (Value.DistinctKeys.get? distinct held).entries

/-- Without a function of its own, the configuration is the generated one with the extra one laid over it. -/
theorem testRunnerConfig_eq (plain : ∀ name, Entries.get? karma "config" ≠ some (.function name))
    (ofMap : ∀ extra, Entries.get? karma "extra" = some extra → extra = .null ∨ extra.isMap = true) :
    testRunnerConfig functions karma run =
      .map (Value.mergeEntries .concatenating [] (generatedTestConfig karma run) (extraEntries karma)) := by
  rw [testRunnerConfig]
  split
  · rename_i name isFunction
    exact absurd isFunction (plain name)
  rw [extraEntries]
  cases held : Entries.get? karma "extra" with
  | none => exact congrArg Value.map (Value.mergeEntries_nil ..).symm
  | some extra =>
    rcases ofMap extra held with rfl | isMap
    · exact congrArg Value.map (Value.mergeEntries_nil ..).symm
    · obtain ⟨entries, rfl⟩ := Value.isMap_iff.mp isMap
      exact Value.mergeAt_map ..

/-- Key by key, what the extra configuration says is laid over what is generated, and a null says nothing. -/
theorem get?_testRunnerConfig (distinct : (Value.map karma).DistinctKeys)
    (plain : ∀ name, Entries.get? karma "config" ≠ some (.function name))
    (ofMap : ∀ extra, Entries.get? karma "extra" = some extra → extra = .null ∨ extra.isMap = true) (key : String) :
    (testRunnerConfig functions karma run).get? key =
      Value.mergeUnder .concatenating [key] (Entries.get? (generatedTestConfig karma run) key)
        ((Value.map karma).at? ["extra", key]) := by
  rw [testRunnerConfig_eq plain ofMap, Value.get?_map,
    Value.get?_mergeEntries .concatenating [] _ (distinct_extraEntries distinct), at?_extra, Value.mergeUnder_notNull?,
    List.nil_append]

end Extended

/-- A list of the generated configuration stays as it is where the extra one says nothing, and goes before an array of
the extra one. -/
structure ListExtended (karma : Entries Value) (config : Value) (key : String) (items : List Value) : Prop where
  kept : (Value.map karma).at? ["extra", key] = none → config.get? key = some (.array items)
  appended : ∀ more, (Value.map karma).at? ["extra", key] = some (.array more) →
    config.get? key = some (.array (items ++ more))

theorem listExtended {karma : Entries Value} {config : Value} {key : String} {items : List Value}
    (merged : config.get? key = Value.mergeUnder .concatenating [key] (some (.array items))
      ((Value.map karma).at? ["extra", key])) :
    ListExtended karma config key items where
  kept := by
    intro nothing
    rw [merged, nothing, Value.mergeUnder_none]
  appended := by
    intro more said
    rw [merged, said, Value.mergeUnder_some .concatenating _ _ (by simp), Option.elim_some, Value.mergeAt_array]
    rfl

/-- How the configuration of the test runner goes on from the resolved plugins and what is generated beside them. -/
structure ExtendsResolved (karma : Entries Value) (run : TestRun) (config : Value) : Prop where
  plugins : ∀ key ∈ pluginListKeys, ∃ items,
    (PluginOptions.ofEntries karma run.coverage).resolve.toValue.get? key = some (.array items) ∧
      ListExtended karma config key items
  files : ListExtended karma config "files" (testFiles karma)
  preprocessors : (Value.map karma).at? ["extra", "preprocessors"] = none →
    config.get? "preprocessors" = some (.map
      (((testFiles karma).filterMap Value.asString?).eraseDups.map fun file => (file, filePreparation)))
  added : ∀ key, key ∉ Entries.keys (generatedTestConfig karma run) →
    config.get? key = (Value.map karma).at? ["extra", key]
  keys : Entries.keys (generatedTestConfig karma run) <+: Entries.keys config.entries

/-- The configuration of the test runner has the resolved plugins, the files to test and their preparation, and each
array of the extra configuration goes behind the list that is generated at its key. No key that is generated is
lost, and a key that is not has what the extra configuration says there. -/
theorem testRunnerConfig_extends_resolved (functions : Functions) {karma : Entries Value} (run : TestRun)
    (distinct : (Value.map karma).DistinctKeys)
    (plain : ∀ name, Entries.get? karma "config" ≠ some (.function name))
    (ofMap : ∀ extra, Entries.get? karma "extra" = some extra → extra = .null ∨ extra.isMap = true) :
    ExtendsResolved karma run (testRunnerConfig functions karma run) := by
  have merged (key : String) : (testRunnerConfig functions karma run).get? key =
      Value.mergeUnder .concatenating [key] (Entries.get? (generatedTestConfig karma run) key)
        ((Value.map karma).at? ["extra", key]) :=
    get?_testRunnerConfig distinct plain ofMap key
  refine ⟨fun key listed => ?_, listExtended (merged "files"), fun nothing => ?_, fun key missing => ?_, ?_⟩
  · obtain ⟨items, resolved⟩ := get?_resolved karma run listed
    refine ⟨items, resolved, listExtended ?_⟩
    rw [merged, get?_generatedTestConfig_of_resolved karma run resolved]
  · rw [merged, nothing, Value.mergeUnder_none, get?_generatedTestConfig_preprocessors, filePreprocessors_eq]
  · rw [merged, Entries.get?_eq_none_iff.mpr missing]
    cases said : (Value.map karma).at? ["extra", key] with
    | none => rfl
    | some value =>
      rw [Value.mergeUnder_some .concatenating _ _ (Value.notNull?_eq_some_iff.mp said).2, Option.elim_none]
  · rw [testRunnerConfig_eq plain ofMap, Value.entries_map,
      Value.keys_mergeEntries .concatenating [] _ (distinct_extraEntries distinct)]
    exact List.prefix_append ..

/-- A browser behind those that are resolved, a file that is named twice beside one that is described, a key of the
user's own and one that is null. -/
theorem testRunnerConfig_extends_resolved_browsers :
    let files : List Value := [.string "a.js", .map [("pattern", .string "b.js")], .string "a.js"]
    let karma : Entries Value :=
      [("testFiles", .array files), ("browsers", .array [.string "Firefox", .null]),
        ("extra", .map [("logLevel", .string "debug"), ("browsers", .array [.string "Chrome"]), ("port", .null)])]
    let config := testRunnerConfig (fun _ config => config) karma ⟨true, false⟩
    (Value.map karma).DistinctKeys ∧ (∀ name, Entries.get? karma "config" ≠ some (.function name)) ∧
      (∀ extra, Entries.get? karma "extra" = some extra → extra = .null ∨ extra.isMap = true) ∧
      config.get? "browsers" = some (.array [.string "Firefox", .string "Chrome"]) ∧
      config.get? "reporters" = some (.array [.string "mocha", .string "coverage"]) ∧
      config.get? "files" = some (.array files) ∧
      config.get? "preprocessors" = some (.map [("a.js", filePreparation)]) ∧
      config.get? "logLevel" = some (.string "debug") ∧ config.get? "port" = none := by
  intro files karma config
  have distinct : (Value.map karma).DistinctKeys := by decide
  have plain : ∀ name, Entries.get? karma "config" ≠ some (.function name) := by
    rintro _ ⟨⟩
  have ofMap : ∀ extra, Entries.get? karma "extra" = some extra → extra = .null ∨ extra.isMap = true := by
    rintro _ ⟨⟩
    exact Or.inr rfl
  have extended := testRunnerConfig_extends_resolved (fun _ config => config) ⟨true, false⟩ distinct plain ofMap
  obtain ⟨_, browsers, inBrowsers⟩ := extended.plugins "browsers" (by simp [pluginListKeys])
  obtain ⟨_, reporters, inReporters⟩ := extended.plugins "reporters" (by simp [pluginListKeys])
  cases browsers
  cases reporters
  refine ⟨distinct, plain, ofMap, inBrowsers.appended _ rfl, inReporters.kept rfl, extended.files.kept rfl, ?_,
    extended.added "logLevel" ?_, extended.added "port" ?_⟩
  · exact extended.preprocessors rfl
  · decide
  · decide

end BuildConfig
