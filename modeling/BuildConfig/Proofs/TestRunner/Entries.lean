import BuildConfig.Proofs.Compile.Namespaces
import BuildConfig.Proofs.TestRunner.BuiltIns

namespace BuildConfig

namespace PluginEntry

theorem ofValue?_toValue (entry : PluginEntry) : ofValue? entry.toValue = some entry := by
  cases entry <;> rfl

theorem toValue_of_ofValue? {value : Value} {entry : PluginEntry} (reads : ofValue? value = some entry) :
    entry.toValue = value := by
  unfold ofValue? at reads
  split at reads
  · cases reads
    rfl
  · obtain ⟨definition, isDefinition, rfl⟩ := Option.map_eq_some_iff.mp reads
    unfold PluginDefinition.ofValue? at isDefinition
    split at isDefinition
    · cases isDefinition
      rfl
    · cases isDefinition

theorem listOfValue_array (entries : List PluginEntry) : listOfValue (.array (entries.map toValue)) = entries := by
  have reads : ofValue? ∘ toValue = some := funext ofValue?_toValue
  rw [listOfValue, List.filterMap_map, reads, List.filterMap_some]

/-- Items that can all be read are the written forms of what is read. -/
theorem exists_map_toValue {items : List Value} (each : ∀ item ∈ items, ∃ entry, ofValue? item = some entry) :
    ∃ entries : List PluginEntry, items = entries.map toValue := by
  induction items with
  | nil => exact ⟨[], rfl⟩
  | cons item rest ih =>
    obtain ⟨entry, reads⟩ := each item (List.mem_cons_self ..)
    obtain ⟨entries, rfl⟩ := ih fun other listed => each other (List.mem_cons_of_mem _ listed)
    exact ⟨entry :: entries, by rw [List.map_cons, toValue_of_ofValue? reads]⟩

end PluginEntry

namespace Schema

theorem acceptsKind_array (value : Value) : (ofKind .array).acceptsKind value = value.isArray := by
  cases value <;> rfl

theorem testPlugin_node : testPlugin =
    .node ⟨[.string, .object], [], [], some "a plugin name or a single-key plugin definition"⟩ [] .allow [] none none
      (some (ofKind .array)) :=
  rfl

theorem testPluginList_node :
    testPluginList = .node ⟨[.array], [], [], none⟩ [] .allow [] (some testPlugin) none none :=
  rfl

/-- The schema describes the items that can be read as plugin entries, and no others. -/
theorem conforms_testPlugin_iff {value : Value} :
    testPlugin.Conforms value ↔ ∃ entry, PluginEntry.ofValue? value = some entry := by
  rw [testPlugin_node]
  constructor
  · intro conforms
    cases value with
    | string name => exact ⟨.bare name, rfl⟩
    | map entries =>
      obtain ⟨_, identifier, only, rfl, isArray⟩ :=
        (conforms_singleEntry_iff (Alternatives.noExceptions_scalar.map _)).mp conforms
      rw [acceptsKind_array] at isArray
      obtain ⟨arguments, rfl⟩ := Value.isArray_iff.mp isArray
      exact ⟨.defined ⟨identifier, arguments⟩, rfl⟩
    | _ =>
      rcases conforms.passes with ⟨_, listed, _⟩ | ⟨choices, _⟩ | admits
      · cases listed
      · exact absurd rfl choices
      · simp [Alternatives.Admits, Kind.accepts] at admits
  · rintro ⟨entry, reads⟩
    rw [← PluginEntry.toValue_of_ofValue? reads]
    cases entry with
    | bare name => exact .scalar (Or.inr ⟨.string, by simp, rfl⟩) rfl rfl
    | defined definition => exact .singleEntry (Or.inr ⟨.object, by simp, rfl⟩) rfl

theorem conforms_testPluginList_iff {value : Value} :
    testPluginList.Conforms value ↔ ∃ entries : List PluginEntry, value = .array (entries.map PluginEntry.toValue) := by
  rw [testPluginList_node]
  constructor
  · intro conforms
    cases value with
    | array items =>
      obtain ⟨_, inside⟩ := (conforms_array_iff (Alternatives.noExceptions_scalar.array _)).mp conforms
      obtain ⟨entries, rfl⟩ := PluginEntry.exists_map_toValue fun item listed =>
        conforms_testPlugin_iff.mp (inside _ rfl item listed)
      exact ⟨entries, rfl⟩
    | _ =>
      rcases conforms.passes with ⟨_, listed, _⟩ | ⟨choices, _⟩ | admits
      · cases listed
      · exact absurd rfl choices
      · simp [Alternatives.Admits, Kind.accepts] at admits
  · rintro ⟨entries, rfl⟩
    refine .array (Or.inr ⟨.array, by simp, rfl⟩) fun item isItem member held => ?_
    cases isItem
    obtain ⟨entry, _, rfl⟩ := List.mem_map.mp held
    exact conforms_testPlugin_iff.mpr ⟨entry, entry.ofValue?_toValue⟩

theorem plain_testPlugin : testPlugin.Everywhere Alternatives.Plain := by
  have list := composable_plain.testPluginList
  rw [testPluginList_node] at list
  obtain ⟨_, _, inItems⟩ := list
  exact inItems testPlugin rfl

theorem declares_testPluginList (plugins : Preprocessors) {key : String}
    (listed : key ∈ ["browsers", "frameworks", "reporters", "plugins"]) :
    (userConfig plugins).Declares ["karma", key] testPluginList := by
  have inKarma : karma.Declares [key] testPluginList := by
    simp only [List.mem_cons, List.not_mem_nil, or_false] at listed
    rcases listed with rfl | rfl | rfl | rfl <;> exact declares_record rfl .here
  exact declares_record rfl inKarma

end Schema

/-- The tree of settings holds each namespace as a map. -/
theorem Settings.get?_toValue_of_ne_type (settings : Settings) {name : String} (notType : name ≠ "type") :
    settings.toValue.get? name = (settings.namespace? name).map .map := by
  have entries : settings.toValue.get? name = Entries.get?
      [("babel", .map settings.babel), ("devServer", .map settings.devServer), ("karma", .map settings.karma),
        ("npm", .map settings.npm), ("webpack", .map settings.webpack)] name := by
    obtain ⟨type, babel, devServer, karma, npm, webpack⟩ := settings
    cases type with
    | none => rfl
    | some type => simp [toValue, Entries.get?, Ne.symm notType]
  rw [entries, namespace?, ← Entries.get?_map]
  rfl

namespace PluginOptions

theorem mem_lists_ofEntries {karma : Entries Value} {coverage : Bool} {key : String}
    {list : Option (List PluginEntry)} (listed : (key, list) ∈ (ofEntries karma coverage).lists) :
    key ∈ ["browsers", "frameworks", "reporters", "plugins"] ∧
      list = (Entries.get? karma key).map PluginEntry.listOfValue := by
  simp only [lists, ofEntries, List.mem_cons, Prod.mk.injEq, List.not_mem_nil, or_false] at listed
  rcases listed with ⟨rfl, rfl⟩ | ⟨rfl, rfl⟩ | ⟨rfl, rfl⟩ | ⟨rfl, rfl⟩ <;> simp

end PluginOptions

/-- A plugin list of a compiled configuration is an array of written entries. -/
theorem Invocation.testPluginList_of_compile_eq_ok {run : Invocation} {user : UserConfig} {compiled : Compiled}
    (keyed : run.WellKeyed user) (compiles : run.compile user = .ok compiled) {key : String} {value : Value}
    (listed : key ∈ ["browsers", "frameworks", "reporters", "plugins"])
    (held : Entries.get? compiled.settings.karma key = some value) :
    ∃ entries : List PluginEntry, value = .array (entries.map PluginEntry.toValue) := by
  obtain ⟨type, _, ready, same⟩ := ready_of_compile_eq_ok keyed compiles
  have atKarma : (run.tree user type).get? "karma" = some (.map compiled.settings.karma) := by
    rw [← same.get?_eq compiled.settings.distinct_toValue, Settings.get?_toValue_of_ne_type _ (by decide)]
    rfl
  have inTree : (run.tree user type).getPath? ["karma", key] = some value := by
    rw [Value.getPath?_cons, atKarma, Option.bind_some, Value.getPath?_single, Value.get?_map, held]
  have notNull : value ≠ .null := by
    rintro rfl
    exact ready.notNull "karma" (by simp [namespaces]) key inTree
  have declares := Schema.declares_testPluginList run.plugins listed
  exact Schema.conforms_testPluginList_iff.mp (declares.conforms_getPath? ready.conforms inTree notNull)

/-- The check of a plugin list and its reader agree on what an entry is, and an entry is written as it was
read. So no entry of a compiled configuration is skipped: the options have a list where the configuration
has one, and each item of it is one of their entries, in the same order. -/
theorem test_plugins_read_as_checked :
    (∀ (value : Value) (path : Path) (report : Report),
      ((report.check Schema.testPlugin path value).errors = report.errors ↔
          ∃ entry, PluginEntry.ofValue? value = some entry) ∧
        ∀ entry, PluginEntry.ofValue? value = some entry → entry.toValue = value) ∧
      (∀ entry : PluginEntry, PluginEntry.ofValue? entry.toValue = some entry) ∧
      ∀ (run : Invocation) (user : UserConfig) (compiled : Compiled), run.WellKeyed user →
        run.compile user = .ok compiled → ∀ coverage key list,
          (key, list) ∈ (PluginOptions.ofEntries compiled.settings.karma coverage).lists →
          Option.Rel (fun value entries => value = .array (entries.map PluginEntry.toValue))
            (Entries.get? compiled.settings.karma key) list := by
  refine ⟨fun value path report => ⟨?_, fun _ => PluginEntry.toValue_of_ofValue?⟩, PluginEntry.ofValue?_toValue, ?_⟩
  · have unmixed := Schema.plain_testPlugin.imp fun _ => Alternatives.Plain.unmixed
    rw [Report.check, Report.addAll_errors_eq_iff, ← Schema.conforms_testPlugin_iff]
    exact Schema.problems_findings_iff unmixed path value
  · intro run user compiled keyed compiles coverage key list isList
    obtain ⟨listed, rfl⟩ := PluginOptions.mem_lists_ofEntries isList
    cases held : Entries.get? compiled.settings.karma key with
    | none => exact .none
    | some value =>
      obtain ⟨entries, rfl⟩ := Invocation.testPluginList_of_compile_eq_ok keyed compiles listed held
      rw [Option.map_some, PluginEntry.listOfValue_array]
      exact .some rfl

/-- Browsers from a flag over those of the user, definitions beside bare names, and a null list. -/
theorem test_plugins_read_as_checked_browsers :
    let run : Invocation := ⟨⟨["test"], [("browsers", .string "Chrome, Firefox")]⟩, .test, .empty, none⟩
    let user : UserConfig := .tree (.map [("karma", .map
      [("browsers", .array [.string "Safari"]), ("reporters", .null),
        ("frameworks", .array [.string "mocha", .map [("framework:tape", .array [.string "module"])]])])])
    run.WellKeyed user ∧ ∃ compiled, run.compile user = .ok compiled ∧
      (PluginOptions.ofEntries compiled.settings.karma false).reporters = none ∧
      ∃ entries, (PluginOptions.ofEntries compiled.settings.karma false).browsers = some entries ∧
        Entries.get? compiled.settings.karma "browsers" = some (.array (entries.map PluginEntry.toValue)) := by
  intro run user
  have keyed : run.WellKeyed user := .of_flags (by decide) (by decide)
  obtain ⟨_, settings, _, compiles, _⟩ := Invocation.compile_of_clean keyed (by decide +kernel)
  have present : (run.compile user).toOption.map (fun compiled =>
      (Entries.get? compiled.settings.karma "browsers").isSome) = some true := by decide +kernel
  have absent : (run.compile user).toOption.map (fun compiled =>
      (Entries.get? compiled.settings.karma "reporters").isSome) = some false := by decide +kernel
  rw [compiles] at present absent
  have read := test_plugins_read_as_checked.2.2 run user _ keyed compiles false
  have browsers := read "browsers" (PluginOptions.ofEntries settings.karma false).browsers
    (by simp [PluginOptions.lists])
  have reporters := read "reporters" (PluginOptions.ofEntries settings.karma false).reporters
    (by simp [PluginOptions.lists])
  obtain ⟨value, held⟩ := Option.isSome_iff_exists.mp (Option.some.inj present)
  rw [held] at browsers
  obtain ⟨entries, isList, rfl⟩ := exists_of_rel_some browsers
  have missing : (PluginOptions.ofEntries settings.karma false).reporters.isSome = false :=
    (isSome_of_rel reporters).symm.trans (Option.some.inj absent)
  have nothing := Option.isNone_iff_eq_none.mp (Option.isSome_eq_false_iff.mp missing)
  exact ⟨keyed, _, compiles, nothing, entries, isList, held⟩

end BuildConfig
