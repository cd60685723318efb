import BuildConfig.Proofs.Compile.ProjectType
import BuildConfig.Proofs.Merge.Lists

namespace BuildConfig

open Value (notNull? concatenated)

theorem Schema.isArray_of_ofKind {value : Value} (conforms : Conforms (ofKind .array) value) :
    value.isArray = true := by
  obtain ⟨kind, listed, accepts⟩ := (conforms_ofKinds_iff (by simp)).mp conforms
  cases List.mem_singleton.mp listed
  cases value <;> first | rfl | cases accepts

/-- A conforming tree has an array, or nothing, wherever the schema has an array in a namespace. -/
theorem Layer.listsAt {plugins : Preprocessors} {tree : Value} (layer : Layer plugins tree) {name key : String}
    (listed : name ∈ namespaces)
    (declares : (Schema.userConfig plugins).Declares [name, key] (Schema.ofKind .array)) :
    tree.ListsAt [name, key] := by
  refine Or.inr ⟨Schema.isMap_of_record layer.conforms, fun child atName => ?_⟩
  by_cases null : child = .null
  · exact Or.inl null
  refine Or.inr ⟨layer.isMap_namespace listed atName null, fun value atKey => ?_⟩
  by_cases valueNull : value = .null
  · exact Or.inl valueNull
  have found : tree.getPath? [name, key] = some value := by
    rw [Value.getPath?_cons, atName, Option.bind_some, Value.getPath?_single, atKey]
  exact Or.inr (Schema.isArray_of_ofKind (declares.conforms_getPath? layer.conforms found valueNull))

section Layers

variable {layers : List Value} {place : List String}

theorem appendsAt_layerStrategy_iff :
    layerStrategy.AppendsAt place ↔ place = ["babel", "presets"] ∨ place = ["babel", "plugins"] := by
  simp [MergeStrategy.AppendsAt, layerStrategy]

theorem Value.at?_empty (nonempty : place ≠ []) : Value.empty.at? place = none := by
  rw [Value.at?, Value.getPath?_empty nonempty, Value.notNull?_none]

theorem at?_mergeLayers_of_appends (appends : layerStrategy.AppendsAt place)
    (lists : ∀ layer ∈ layers, layer.ListsAt place) (distinct : ∀ layer ∈ layers, layer.DistinctKeys) :
    (mergeLayers layers).at? place = concatenated (layers.filterMap fun layer => layer.at? place) := by
  have nonempty : place ≠ [] := by
    rintro rfl
    simpa using appendsAt_layerStrategy_iff.mp appends
  rw [mergeLayers, Value.at?_foldl_of_appends appends (Value.listsAt_empty nonempty) lists distinct,
    Value.at?_empty nonempty]
  rfl

theorem at?_mergeLayers_of_replaces (nonempty : place ≠ []) (replaces : ¬layerStrategy.AppendsAt place)
    (lists : ∀ layer ∈ layers, layer.ListsAt place) (distinct : ∀ layer ∈ layers, layer.DistinctKeys) :
    (mergeLayers layers).at? place = (layers.filterMap fun layer => layer.at? place).getLast? := by
  rw [mergeLayers, Value.at?_foldl_of_replaces replaces lists distinct, Value.at?_empty nonempty, Option.or_none]

end Layers

section Defaults

variable (mode : BuildMode) (args : Arguments)

theorem at?_withPresets (config : Value) (names : List String) :
    (withPresets config names).at? ["babel", "presets"] = some (.array (names.map .string)) := by
  rw [Value.at?, withPresets, Value.getPath?_insertPath_self, Value.notNull?_some (by simp)]

theorem at?_withAliases_presets (config : Value) (compat : Compat) :
    (withAliases config compat).at? ["babel", "presets"] = config.at? ["babel", "presets"] := by
  rw [Value.at?, withAliases, Value.getPath?_insertPath_of_apart (by decide), Value.at?]

theorem at?_reactDefaults_presets :
    (reactDefaults mode args).at? ["babel", "presets"] = some (.array ((reactPresets mode args).map .string)) := by
  unfold reactDefaults
  split
  · rw [at?_withAliases_presets, at?_withPresets]
  · rw [at?_withPresets]

theorem reactPresets_ne_nil : reactPresets mode args ≠ [] := by
  unfold reactPresets
  split
  · simp
  · split <;> simp
  · simp

/-- A type of project has no presets at all or a few. -/
theorem at?_projectDefaults_presets (type : Option ProjectType) :
    (projectDefaults type mode args).at? ["babel", "presets"] = none ∨
      ∃ names, names ≠ [] ∧
        (projectDefaults type mode args).at? ["babel", "presets"] = some (.array (names.map .string)) := by
  have react := at?_reactDefaults_presets mode args
  cases type with
  | none => exact Or.inl rfl
  | some type =>
    cases type with
    | reactApp => exact Or.inr ⟨_, reactPresets_ne_nil mode args, react⟩
    | reactComponent =>
      refine Or.inr ⟨_, reactPresets_ne_nil mode args, ?_⟩
      rw [projectDefaults]
      split
      · exact react
      · rwa [Value.at?, Value.getPath?_insertPath_of_apart (by decide)]
    | preactApp => exact Or.inr ⟨["preact"], by simp, rfl⟩
    | infernoApp => exact Or.inr ⟨["inferno"], by simp, rfl⟩
    | webApp => exact Or.inl rfl
    | webModule => exact Or.inl rfl

end Defaults

namespace Invocation

variable {run : Invocation} {user : UserConfig}

/-- The presets of a type of project and then the user's. -/
def presetsFor (run : Invocation) (user : UserConfig) (type : Option ProjectType) : Option Value :=
  concatenated (((projectDefaults type run.mode run.args).at? ["babel", "presets"]).toList ++
    ((user.evaluate run.context).at? ["babel", "presets"]).toList)

theorem at?_check_user_presets (run : Invocation) (user : UserConfig) :
    (run.check user).user.at? ["babel", "presets"] = (user.evaluate run.context).at? ["babel", "presets"] := by
  rw [Value.at?, Value.at?, getPath?_check_user (by decide)]

theorem at?_mergeLayers_presets (keyed : run.WellKeyed user) (clean : (run.check user).report.hasErrors = false)
    (type : Option ProjectType) :
    (mergeLayers (run.layers user type).reverse).at? ["babel", "presets"] = run.presetsFor user type := by
  have each := layer_of_mem_layers keyed clean type
  have fromFlags : (run.check user).overrides.at? ["babel", "presets"] = none := by
    rw [Value.at?, getPath?_check_overrides (by decide), getPath?_commandLineOverrides_of_apart (by decide),
      Value.notNull?_none]
  have fromBaseline : baseline.at? ["babel", "presets"] = none := rfl
  rw [at?_mergeLayers_of_appends (appendsAt_layerStrategy_iff.mpr (Or.inl rfl))
    (fun layer listed => (each layer (List.mem_reverse.mp listed)).listsAt (by simp [namespaces])
      (declares_presets run.plugins))
    (fun layer listed => (each layer (List.mem_reverse.mp listed)).distinct)]
  simp only [layers, List.reverse_cons, List.reverse_nil, List.nil_append, List.cons_append, List.filterMap_cons,
    List.filterMap_nil, fromFlags, fromBaseline, run.at?_check_user_presets user, presetsFor]
  cases (projectDefaults type run.mode run.args).at? ["babel", "presets"] <;>
    cases (user.evaluate run.context).at? ["babel", "presets"] <;> rfl

/-- Compiled settings report the type of which they have the defaults, unless a null is given as its flag. -/
theorem declaredType_of_compile {compiled : Compiled} (keyed : run.WellKeyed user)
    (compiles : run.compile user = .ok compiled) (notNull : run.args.flag? "type" ≠ some .null) :
    declaredType (run.check user) = .ok compiled.settings.type := by
  have clean := clean_of_compile_eq_ok compiles
  obtain ⟨type, settings, _, result, lookups⟩ := compile_of_clean keyed clean
  rw [compiles] at result
  cases result
  rw [declaredType_eq, ← settings.typeNamed_toValue, lookups "type", notNull?_tree_type keyed clean,
    run.get?_overrides_type user]
  cases given : run.args.flag? "type" with
  | none => exact (typeNamed_notNull? _).symm
  | some value => rw [Value.notNull?_some fun null => notNull (null ▸ given), Option.some_or, Option.some_or]

theorem declaredType_of_null (null : run.args.flag? "type" = some .null) :
    declaredType (run.check user) = .ok none := by
  rw [declaredType_eq, run.get?_overrides_type user, null]
  rfl

theorem at?_settings_presets {compiled : Compiled} (keyed : run.WellKeyed user)
    (compiles : run.compile user = .ok compiled) {type : Option ProjectType}
    (declared : declaredType (run.check user) = .ok type) :
    compiled.settings.toValue.at? ["babel", "presets"] = run.presetsFor user type := by
  have clean := clean_of_compile_eq_ok compiles
  obtain ⟨chosen, settings, isChosen, result, lookups⟩ := compile_of_clean keyed clean
  rw [compiles] at result
  cases result
  cases declared.symm.trans isChosen
  rw [at?_of_lookups lookups (by simp), Value.at?, tree,
    getPath?_hoistConfig_of_apart (by decide) (by decide)]
  exact at?_mergeLayers_presets keyed clean type

/-- The presets are the user's alone just when the type has none. -/
theorem presetsFor_eq_iff (keyed : run.WellKeyed user) (clean : (run.check user).report.hasErrors = false)
    (type : Option ProjectType) :
    run.presetsFor user type = (user.evaluate run.context).at? ["babel", "presets"] ↔
      (projectDefaults type run.mode run.args).at? ["babel", "presets"] = none := by
  have lists := (layers_of_clean keyed clean).1.listsAt (by simp [namespaces]) (declares_presets run.plugins)
  have alone := lists.concatenated_at?
  rw [run.at?_check_user_presets user] at alone
  rcases at?_projectDefaults_presets run.mode run.args type with none | ⟨names, some, has⟩
  · rw [presetsFor, none, Option.toList_none, List.nil_append, alone]
    exact iff_of_true rfl rfl
  · rw [presetsFor, has, ← alone]
    refine iff_of_false (fun same => ?_) (by simp)
    cases held : (user.evaluate run.context).at? ["babel", "presets"] with
    | none => simp [held, concatenated] at same
    | some value => simp [held, concatenated, Value.asArray?, some] at same

end Invocation

/-- Presets and plugins of the transpiler accumulate over layers in the order in which they are laid, and at
any other place the last array stands alone. So a run has the presets of the type that it reports and then the
user's. It has the user's alone if a null is given as the flag for the type, whatever type it reports. -/
theorem layered_lists_accumulate (layers : List Value) (place : List String) (run : Invocation) (user : UserConfig) :
    ((∀ layer ∈ layers, layer.ListsAt place) → (∀ layer ∈ layers, layer.DistinctKeys) →
        (layerStrategy.AppendsAt place →
          (mergeLayers layers).at? place = concatenated (layers.filterMap fun layer => layer.at? place)) ∧
        (place ≠ [] → ¬layerStrategy.AppendsAt place →
          (mergeLayers layers).at? place = (layers.filterMap fun layer => layer.at? place).getLast?)) ∧
      ∀ compiled, run.WellKeyed user → run.compile user = .ok compiled →
        (compiled.settings.toValue.at? ["babel", "presets"] = run.presetsFor user compiled.settings.type ↔
          (run.args.flag? "type" = some .null →
            (projectDefaults compiled.settings.type run.mode run.args).at? ["babel", "presets"] = none)) ∧
        (run.args.flag? "type" = some .null → compiled.settings.toValue.at? ["babel", "presets"] =
          (user.evaluate run.context).at? ["babel", "presets"]) := by
  refine ⟨fun lists distinct => ⟨?accumulate, ?alone⟩, fun compiled keyed compiles => ?runs⟩
  case accumulate => exact fun appends => at?_mergeLayers_of_appends appends lists distinct
  case alone => exact fun nonempty replaces => at?_mergeLayers_of_replaces nonempty replaces lists distinct
  case runs =>
    have clean := Invocation.clean_of_compile_eq_ok compiles
    have hidden (null : run.args.flag? "type" = some .null) : compiled.settings.toValue.at? ["babel", "presets"] =
        (user.evaluate run.context).at? ["babel", "presets"] := by
      rw [Invocation.at?_settings_presets keyed compiles (Invocation.declaredType_of_null null)]
      exact (Invocation.presetsFor_eq_iff keyed clean none).mpr rfl
    refine ⟨?_, hidden⟩
    by_cases null : run.args.flag? "type" = some .null
    · rw [hidden null, eq_comm, Invocation.presetsFor_eq_iff keyed clean]
      exact ⟨fun none _ => none, fun none => none null⟩
    · exact iff_of_true (Invocation.at?_settings_presets keyed compiles
        (Invocation.declaredType_of_compile keyed compiles null)) fun same => (null same).elim

theorem layered_lists_accumulate_stages :
    let transpiler (presets : Value) : Value := .map [("babel", .map [("presets", presets)])]
    let layers := [transpiler (.array [.string "react"]), .map [("babel", .null)],
      transpiler (.array [.string "stage-0"])]
    let browsers (names : Value) : Value := .map [("karma", .map [("browsers", names)])]
    let others := [browsers (.array [.string "Chrome"]), browsers (.array [.string "Firefox"]), browsers .null]
    let given : Invocation := ⟨⟨["build"], [("type", .string "react-app")]⟩, .production, .empty, none⟩
    let hidden : Invocation := ⟨⟨["build"], [("type", .null)]⟩, .production, .empty, none⟩
    let user : UserConfig := .tree (transpiler (.array [.string "stage-0"]))
    (mergeLayers layers).at? ["babel", "presets"] = some (.array [.string "react", .string "stage-0"]) ∧
      (mergeLayers others).at? ["karma", "browsers"] = some (.array [.string "Firefox"]) ∧
      (∃ compiled, given.compile user = .ok compiled ∧ compiled.settings.toValue.at? ["babel", "presets"] =
        some (.array [.string "react", .string "react-prod", .string "stage-0"])) ∧
      ∃ compiled, hidden.compile user = .ok compiled ∧
        compiled.settings.toValue.at? ["babel", "presets"] = some (.array [.string "stage-0"]) := by
  intro transpiler layers browsers others given hidden user
  have keyed : given.WellKeyed user := .of_flags (by decide) (by decide)
  have keyedHidden : hidden.WellKeyed user := .of_flags (by decide) (by decide)
  obtain ⟨accumulate, runs⟩ := layered_lists_accumulate layers ["babel", "presets"] given user
  obtain ⟨replace, hiddenRuns⟩ := layered_lists_accumulate others ["karma", "browsers"] hidden user
  obtain ⟨_, settings, _, compiles, _⟩ := Invocation.compile_of_clean keyed (by decide +kernel)
  obtain ⟨_, _, _, hiddenCompiles, _⟩ := Invocation.compile_of_clean keyedHidden (by decide +kernel)
  have type : (given.compile user).toOption.map (·.settings.type) = some (some .reactApp) := by decide +kernel
  rw [compiles] at type
  have reported : settings.type = some .reactApp := Option.some.inj type
  have presets := (runs _ keyed compiles).1.mpr (by rintro ⟨⟩)
  rw [reported] at presets
  exact ⟨(accumulate (by decide) (by decide)).1 (by decide),
    (replace (by decide) (by decide)).2 (by decide) (by decide),
    ⟨_, compiles, presets⟩, ⟨_, hiddenCompiles, (hiddenRuns _ keyedHidden hiddenCompiles).2 rfl⟩⟩

/-- A run with a null for the type reports the user's type, and has none of its presets. -/
theorem compiled_presets_lack_those_of_hidden_type :
    let run : Invocation := ⟨⟨["build"], [("type", .null)]⟩, .production, .empty, none⟩
    let user : UserConfig := .tree (.map [("type", .string "react-app"),
      ("babel", .map [("presets", .array [.string "stage-0"])])])
    run.WellKeyed user ∧ ∃ compiled, run.compile user = .ok compiled ∧ compiled.settings.type = some .reactApp ∧
      compiled.settings.toValue.at? ["babel", "presets"] ≠ run.presetsFor user compiled.settings.type := by
  intro run user
  have keyed : run.WellKeyed user := .of_flags (by decide) (by decide)
  obtain ⟨_, settings, _, compiles, _⟩ := Invocation.compile_of_clean keyed (by decide +kernel)
  have type : (run.compile user).toOption.map (·.settings.type) = some (some .reactApp) := by decide +kernel
  rw [compiles] at type
  have reported : settings.type = some .reactApp := Option.some.inj type
  have presets := Invocation.at?_settings_presets keyed compiles (Invocation.declaredType_of_null rfl)
  refine ⟨keyed, _, compiles, reported, fun same => ?_⟩
  rw [presets, reported] at same
  exact absurd (congrArg (fun found => (found.bind Value.asArray?).map List.length) same) (by decide)

end BuildConfig
