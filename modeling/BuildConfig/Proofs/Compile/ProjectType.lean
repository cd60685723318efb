import BuildConfig.Proofs.Compile.Places
import BuildConfig.Proofs.Compile.Precedence

namespace BuildConfig

open Value (notNull?)

/-- Two maps with the same entries in some order. -/
def Value.SameEntries (a b : Value) : Prop :=
  ∃ entries others, a = .map entries ∧ b = .map others ∧ entries.Perm others

theorem Value.sameEntries_of_lookups {a b : Value} (isMap : a.isMap = true) (otherMap : b.isMap = true)
    (distinct : Entries.Distinct a.entries) (distinctOther : Entries.Distinct b.entries)
    (agree : ∀ key, a.get? key = b.get? key) : a.SameEntries b := by
  obtain ⟨entries, rfl⟩ := Value.isMap_iff.mp isMap
  obtain ⟨others, rfl⟩ := Value.isMap_iff.mp otherMap
  exact ⟨entries, others, rfl, rfl, Entries.perm_of_lookups distinct distinctOther agree⟩

theorem Value.SameEntries.get?_eq {a b : Value} (same : a.SameEntries b) (distinct : Entries.Distinct a.entries)
    (key : String) : a.get? key = b.get? key := by
  obtain ⟨entries, others, rfl, rfl, perm⟩ := same
  exact Entries.Distinct.get?_eq_of_perm distinct perm key

section Merged

variable {plugins : Preprocessors}

/-- Laying a layer over a tree sets the type to that of the layer, if it has one. -/
theorem at?_mergeWith_type (base : Value) {overlay : Value} (layer : Layer plugins overlay) :
    (Value.mergeWith layerStrategy base overlay).at? ["type"] =
      (overlay.at? ["type"]).or (base.at? ["type"]) := by
  cases set : overlay.at? ["type"] with
  | none =>
    refine Value.at?_mergeAt_of_undecided layerStrategy [] layer.distinct fun decides => ?_
    rcases Value.decides_cons_iff.mp decides with ⟨_, notMap⟩ | ⟨child, found, decidesChild⟩
    · rw [Schema.isMap_of_record layer.conforms] at notMap
      cases notMap
    · rw [Value.at?, Value.getPath?_single, found, Value.notNull?_some (Value.decides_nil_iff.mp decidesChild)] at set
      cases set
  | some value =>
    obtain ⟨merged, seen, _, exactly⟩ :=
      @Value.at?_mergeAt_of_some layerStrategy [] base overlay value ["type"] layer.distinct set
    obtain ⟨_, _, named⟩ := layer.typeNamed
    rw [Value.at?, Value.getPath?_single, named] at set
    obtain ⟨type, _, rfl⟩ := Option.map_eq_some_iff.mp set
    rw [Value.mergeWith, seen, exactly rfl rfl, Option.some_or]

/-- A map that holds no null at the top. -/
structure FreeOfNulls (tree : Value) : Prop where
  isMap : tree.isMap = true
  notNull : ∀ key, tree.get? key ≠ some .null

theorem FreeOfNulls.mergeWith {base overlay : Value} (below : FreeOfNulls base) (layer : Layer plugins overlay) :
    FreeOfNulls (Value.mergeWith layerStrategy base overlay) := by
  have isMap := Schema.isMap_of_record layer.conforms
  refine ⟨Value.isMap_mergeAt layerStrategy [] below.isMap isMap, fun key => ?_⟩
  rw [Value.mergeWith, Value.get?_mergeAt layerStrategy [] below.isMap isMap layer.distinct]
  exact Value.mergeUnder_ne_null layerStrategy _ _ (below.notNull key)

theorem freeOfNulls_mergeLayers {layers : List Value} (each : ∀ layer ∈ layers, Layer plugins layer) :
    FreeOfNulls (mergeLayers layers) := by
  have start : FreeOfNulls .empty := ⟨rfl, fun _ found => by cases found⟩
  exact List.foldlRecOn _ _ start fun _ before layer listed => before.mergeWith (each layer listed)

end Merged

namespace Invocation

variable {run : Invocation} {user : UserConfig}

theorem get?_tree_type (run : Invocation) (user : UserConfig) (type : Option ProjectType) :
    (run.tree user type).get? "type" = (mergeLayers (run.layers user type).reverse).get? "type" := by
  rw [← Value.getPath?_single, ← Value.getPath?_single, tree]
  exact getPath?_hoistConfig_of_apart (by decide) (by decide) run.plugins _

theorem get?_overrides_type (run : Invocation) (user : UserConfig) :
    (run.check user).overrides.get? "type" = run.args.flag? "type" := by
  rw [← Value.getPath?_single, getPath?_check_overrides (by decide), getPath?_commandLineOverrides_type]

/-- The type of a merged tree: that of the overrides, or else the user's, where a null is none. -/
theorem notNull?_tree_type (keyed : run.WellKeyed user) (clean : (run.check user).report.hasErrors = false)
    (type : Option ProjectType) :
    notNull? ((run.tree user type).get? "type") =
      (notNull? ((run.check user).overrides.get? "type")).or (notNull? ((run.check user).user.get? "type")) := by
  obtain ⟨userLayer, overridesLayer⟩ := layers_of_clean keyed clean
  have noDefault : (projectDefaults type run.mode run.args).at? ["type"] = none := by
    rw [Value.at?, getPath?_projectDefaults_of_apart (by decide), Value.notNull?_none]
  have merged : (mergeLayers (run.layers user type).reverse).at? ["type"] =
      ((run.check user).overrides.at? ["type"]).or ((run.check user).user.at? ["type"]) := by
    simp only [layers, List.reverse_cons, List.reverse_nil, List.nil_append, List.cons_append, mergeLayers,
      List.foldl_cons, List.foldl_nil]
    rw [at?_mergeWith_type _ overridesLayer, at?_mergeWith_type _ userLayer,
      at?_mergeWith_type _ (layer_projectDefaults run.plugins type run.mode run.args), noDefault,
      Option.none_or, at?_mergeWith_type _ (complete_baseline run.plugins).toLayer]
    exact congrArg (Option.or _) (Option.or_none)
  simpa only [Value.at?, Value.getPath?_single, get?_tree_type] using merged

theorem get?_tree_ne_null (keyed : run.WellKeyed user) (clean : (run.check user).report.hasErrors = false)
    (type : Option ProjectType) (key : String) : (run.tree user type).get? key ≠ some .null := by
  have complete := complete_tree keyed clean type
  intro found
  rcases complete.toLayer.key_cases found with rfl | listed
  · rw [get?_tree_type] at found
    have layers := layer_of_mem_layers keyed clean type
    exact (freeOfNulls_mergeLayers fun layer listed => layers layer (List.mem_reverse.mp listed)).notNull "type" found
  · obtain ⟨entries, atKey⟩ := complete.namespaces key listed
    rw [found] at atKey
    cases atKey

/-- Settings split from a merged tree have its very entries. -/
theorem sameEntries_tree (keyed : run.WellKeyed user) (clean : (run.check user).report.hasErrors = false)
    {type : Option ProjectType} {settings : Settings}
    (lookups : ∀ key, settings.toValue.get? key = notNull? ((run.tree user type).get? key)) :
    settings.toValue.SameEntries (run.tree user type) := by
  have complete := complete_tree keyed clean type
  refine Value.sameEntries_of_lookups rfl (Schema.isMap_of_record complete.conforms) settings.distinct_toValue
    complete.distinct.entries fun key => ?_
  rw [lookups key]
  cases found : (run.tree user type).get? key with
  | none => rfl
  | some child => exact Value.notNull?_some fun null => get?_tree_ne_null keyed clean type key (null ▸ found)

end Invocation

theorem typeNamed_notNull? (found : Option Value) : typeNamed (notNull? found) = typeNamed found := by
  cases found with
  | none => rfl
  | some value => cases value <;> rfl

theorem Settings.typeNamed_toValue (settings : Settings) :
    typeNamed (settings.toValue.get? "type") = .ok settings.type := by
  obtain ⟨type, babel, devServer, karma, npm, webpack⟩ := settings
  cases type with
  | none => rfl
  | some type => cases type <;> rfl

/-- The compiled settings are the layers over each other, up to the order of keys at the top, with the
defaults of the very type that they report. A null given as the flag for the type is the exception:
it hides the user's type from the choice of defaults, and yet it does not cover it. -/
theorem compiled_settings_rest_on_defaults_of_type {run : Invocation} {user : UserConfig} {compiled : Compiled}
    (keyed : run.WellKeyed user) (compiles : run.compile user = .ok compiled) :
    (run.args.flag? "type" ≠ some .null →
        compiled.settings.toValue.SameEntries (run.tree user compiled.settings.type)) ∧
      (run.args.flag? "type" = some .null → compiled.settings.toValue.SameEntries (run.tree user none)) := by
  have clean := Invocation.clean_of_compile_eq_ok compiles
  obtain ⟨type, settings, declared, result, lookups⟩ := Invocation.compile_of_clean keyed clean
  rw [compiles] at result
  cases result
  have same := Invocation.sameEntries_tree keyed clean lookups
  rw [Invocation.declaredType_eq, run.get?_overrides_type user] at declared
  constructor
  · intro notNull
    have reported := settings.typeNamed_toValue
    rw [lookups "type", Invocation.notNull?_tree_type keyed clean, run.get?_overrides_type user] at reported
    -- without a null on top the first type that is present is the highest that is not null
    have sameType : type = settings.type := by
      refine Except.ok.inj (declared.symm.trans (Eq.trans ?_ reported))
      cases given : run.args.flag? "type" with
      | none => exact (typeNamed_notNull? _).symm
      | some value => rw [Value.notNull?_some fun null => notNull (null ▸ given), Option.some_or, Option.some_or]
    exact sameType ▸ same
  · intro null
    rw [null] at declared
    cases declared
    exact same

theorem compiled_settings_rest_on_defaults_of_type_preact :
    let given : Invocation := ⟨⟨["build"], [("type", .string "react-app")]⟩, .production, .empty, none⟩
    let hidden : Invocation := ⟨⟨["build"], [("type", .null)]⟩, .production, .empty, none⟩
    let user : UserConfig := .tree (.map [("type", .string "preact-app"), ("npm", .map [("umd", .string "App")])])
    given.WellKeyed user ∧ hidden.WellKeyed user ∧
      (∃ compiled, given.compile user = .ok compiled ∧ compiled.settings.type = some .reactApp ∧
        compiled.settings.toValue.SameEntries (given.tree user (some .reactApp))) ∧
      ∃ compiled, hidden.compile user = .ok compiled ∧ compiled.settings.type = some .preactApp ∧
        compiled.settings.toValue.SameEntries (hidden.tree user none) := by
  intro given hidden user
  have keyed : given.WellKeyed user := .of_flags (by decide) (by decide)
  have keyedHidden : hidden.WellKeyed user := .of_flags (by decide) (by decide)
  obtain ⟨_, settings, _, compiles, _⟩ := Invocation.compile_of_clean keyed (by decide +kernel)
  obtain ⟨_, hiddenSettings, _, hiddenCompiles, _⟩ := Invocation.compile_of_clean keyedHidden (by decide +kernel)
  have type : (given.compile user).toOption.map (·.settings.type) = some (some .reactApp) := by decide +kernel
  have hiddenType : (hidden.compile user).toOption.map (·.settings.type) = some (some .preactApp) := by decide +kernel
  rw [compiles] at type
  rw [hiddenCompiles] at hiddenType
  have reported : settings.type = some .reactApp := Option.some.inj type
  have same := (compiled_settings_rest_on_defaults_of_type keyed compiles).1 (by rintro ⟨⟩)
  have sameHidden := (compiled_settings_rest_on_defaults_of_type keyedHidden hiddenCompiles).2 rfl
  exact ⟨keyed, keyedHidden, ⟨_, compiles, reported, reported ▸ same⟩,
    ⟨_, hiddenCompiles, Option.some.inj hiddenType, sameHidden⟩⟩

/-- The settings of a run with a null for the type report the user's type, and have none of its defaults. -/
theorem compiled_settings_lack_defaults_of_hidden_type :
    let run : Invocation := ⟨⟨["build"], [("type", .null)]⟩, .production, .empty, none⟩
    let user : UserConfig := .tree (.map [("type", .string "react-app")])
    run.WellKeyed user ∧ ∃ compiled, run.compile user = .ok compiled ∧
      compiled.settings.type = some .reactApp ∧
      ¬compiled.settings.toValue.SameEntries (run.tree user compiled.settings.type) := by
  intro run user
  have keyed : run.WellKeyed user := .of_flags (by decide) (by decide)
  obtain ⟨_, settings, _, compiles, _⟩ := Invocation.compile_of_clean keyed (by decide +kernel)
  have type : (run.compile user).toOption.map (·.settings.type) = some (some .reactApp) := by decide +kernel
  have lacking : (run.compile user).toOption.map (fun compiled =>
      (compiled.settings.toValue.getPath? ["babel", "presets"]).isSome) = some false := by decide +kernel
  have merged : ((run.tree user (some .reactApp)).getPath? ["babel", "presets"]).isSome = true := by decide +kernel
  rw [compiles] at type lacking
  have reported : settings.type = some .reactApp := Option.some.inj type
  have missing : (settings.toValue.getPath? ["babel", "presets"]).isSome = false := Option.some.inj lacking
  refine ⟨keyed, _, compiles, reported, fun same => ?_⟩
  rw [reported] at same
  have sameBabel : settings.toValue.get? "babel" = (run.tree user (some .reactApp)).get? "babel" :=
    same.get?_eq settings.distinct_toValue "babel"
  rw [Value.getPath?_cons, ← sameBabel, ← Value.getPath?_cons, missing] at merged
  cases merged

end BuildConfig
