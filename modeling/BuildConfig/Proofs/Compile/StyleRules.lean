import BuildConfig.Proofs.Compile.Places
import BuildConfig.Proofs.Compile.Precedence

namespace BuildConfig

open Value (notNull?)

/-- A layer that has nothing under a key of a namespace does not decide what is there. -/
theorem Layer.undecided {plugins : Preprocessors} {tree : Value} (layer : Layer plugins tree) {name key : String}
    (listed : name ∈ namespaces) (nothing : tree.getPath? [name, key] = none) : ¬tree.Decides [name, key] := by
  intro decides
  rcases Value.decides_cons_iff.mp decides with ⟨_, notMap⟩ | ⟨child, atName, inside⟩
  · rw [Schema.isMap_of_record layer.conforms] at notMap
    cases notMap
  rcases Value.decides_cons_iff.mp inside with ⟨notNull, notMap⟩ | ⟨value, atKey, _⟩
  · rw [layer.isMap_namespace listed atName notNull] at notMap
    cases notMap
  · rw [Value.getPath?_cons, atName, Option.bind_some, Value.getPath?_single, atKey] at nothing
    cases nothing

namespace Invocation

variable {run : Invocation} {user : UserConfig}

/-- The styles of the user are neither brought to another form nor laid over or under others. -/
theorem at?_mergeLayers_styles (keyed : run.WellKeyed user) (clean : (run.check user).report.hasErrors = false)
    (type : Option ProjectType) {styles : Value}
    (held : (user.evaluate run.context).at? ["webpack", "styles"] = some styles) :
    (mergeLayers (run.layers user type).reverse).at? ["webpack", "styles"] = some styles := by
  obtain ⟨userLayer, overridesLayer⟩ := layers_of_clean keyed clean
  have defaultsLayer := layer_projectDefaults run.plugins type run.mode run.args
  have baselineLayer := (complete_baseline run.plugins).toLayer
  have inNamespace : "webpack" ∈ namespaces := by simp [namespaces]
  -- the lower layers have no styles, so the user's come over nothing, and no flag comes over them
  have below : (mergeLayers [projectDefaults type run.mode run.args, baseline].reverse).at? ["webpack", "styles"] =
      none := by
    refine at?_mergeLayers_of_undecided ?_ (by simp) ?_
    · simp only [List.mem_cons, List.not_mem_nil, or_false, forall_eq_or_imp, forall_eq]
      exact ⟨defaultsLayer.distinct, baselineLayer.distinct⟩
    · simp only [List.mem_cons, List.not_mem_nil, or_false, forall_eq_or_imp, forall_eq]
      exact ⟨defaultsLayer.undecided inNamespace (getPath?_projectDefaults_of_apart (by decide) type run.mode run.args),
        baselineLayer.undecided inNamespace rfl⟩
  have checked : (run.check user).user.at? ["webpack", "styles"] = some styles := by
    rw [← held, Value.at?, Value.at?, getPath?_check_user (by decide)]
  have overridesUndecided : ¬(run.check user).overrides.Decides ["webpack", "styles"] := by
    refine overridesLayer.undecided inNamespace ?_
    rw [getPath?_check_overrides (by decide), getPath?_commandLineOverrides_of_apart (by decide)]
  have merged := Value.at?_mergeAt_over_nothing layerStrategy [] userLayer.distinct below checked
  exact (Value.at?_mergeAt_of_undecided layerStrategy [] overridesLayer.distinct overridesUndecided).trans merged

/-- What a compiled configuration has for styles: the user's, with their loader keys moved. -/
theorem getPath?_toValue_styles {compiled : Compiled} (keyed : run.WellKeyed user)
    (compiles : run.compile user = .ok compiled) {styles : Entries Value}
    (held : (user.evaluate run.context).getPath? ["webpack", "styles"] = some (.map styles)) :
    compiled.settings.toValue.getPath? ["webpack", "styles"] =
      some (.map (hoistStyles run.plugins.loaderNames styles)) := by
  have clean := clean_of_compile_eq_ok compiles
  obtain ⟨type, settings, _, result, lookups⟩ := compile_of_clean keyed clean
  rw [compiles] at result
  cases result
  have seen : (user.evaluate run.context).at? ["webpack", "styles"] = some (.map styles) := by
    rw [Value.at?, held, Value.notNull?_some (by simp)]
  have merged := Value.getPath?_of_at? (at?_mergeLayers_styles keyed clean type seen)
  have hoisted : (run.tree user type).at? ["webpack", "styles"] =
      some (.map (hoistStyles run.plugins.loaderNames styles)) := by
    rw [Value.at?, tree, getPath?_hoistConfig_styles, merged, Option.map_some, Value.onMap,
      Value.notNull?_some (by simp)]
  exact Value.getPath?_of_at? ((at?_of_lookups lookups (by simp)).trans hoisted)

theorem conforms_user_styles (clean : (run.check user).report.hasErrors = false) {styles : Entries Value}
    (held : (user.evaluate run.context).getPath? ["webpack", "styles"] = some (.map styles)) :
    (Schema.styles run.plugins).Conforms (.map styles) := by
  rw [← getPath?_check_user (by decide)] at held
  exact (Schema.declares_styles run.plugins).conforms_getPath? (check_conforms clean).1 held (by simp)

end Invocation

namespace Schema

theorem isMap_of_styleEntry {loaderNames : List String} {rule : Value}
    (conforms : Conforms (styleEntry loaderNames) rule) : rule.isMap = true := by
  rw [styleEntry_node] at conforms
  exact isMap_of_object_node conforms

/-- A style rule has conditions, loaders and the names of its loaders for keys. -/
theorem keys_of_styleEntry {loaderNames : List String} {entries : Entries Value}
    (conforms : Conforms (styleEntry loaderNames) (.map entries)) {key : String} (held : key ∈ Entries.keys entries) :
    key ∈ loaderNames ∨ key ∈ ["include", "exclude", "loaders"] := by
  rw [styleEntry_node, conforms_map_iff (Alternatives.noExceptions_scalar.map _)] at conforms
  obtain ⟨_, known, _⟩ := conforms
  have declared := known.resolve_left (by simp) key held
  rw [Entries.mem_keys_assign] at declared
  simpa [Entries.keys] using declared

/-- Every rule for a style type is judged by the loaders of that very type. -/
theorem conforms_styleRules_of_styles {plugins : Preprocessors} {entries : Entries Value} {styleType : String}
    {rules : List Value} (conforms : Conforms (styles plugins) (.map entries))
    (held : Entries.get? entries styleType = some (.array rules)) :
    ∀ rule ∈ rules, Conforms (styleEntry (plugins.loaderNamesFor styleType)) rule := by
  rw [styles_node, conforms_map_iff (falseException_scalar.map _)] at conforms
  obtain ⟨_, known, _, declared, _⟩ := conforms
  have isType := known.resolve_left (by simp) styleType (Entries.mem_keys_iff.mpr ⟨_, held⟩)
  obtain ⟨field, found⟩ := Entries.mem_keys_iff.mp isType
  have isDeclared := Entries.mem_of_get? found
  have items := declared styleType field isDeclared (.array rules) held (by simp)
  rw [eq_of_mem_styleFields isDeclared] at items
  exact ((conforms_array_iff (Alternatives.noExceptions_scalar.array _)).mp items).2 _ rfl

end Schema

namespace Preprocessors

variable {plugins : Preprocessors} {styleType name : String}

theorem mem_loaderNames_iff : name ∈ plugins.loaderNames ↔ name ∈ baseLoaders ∨ name ∈ plugins.ids :=
  List.mem_append

theorem mem_loaderNamesFor_iff :
    name ∈ plugins.loaderNamesFor styleType ↔ name ∈ baseLoaders ∨ (name = styleType ∧ styleType ∈ plugins.ids) := by
  rw [loaderNamesFor, List.mem_append, ids, ← Entries.contains_iff_mem]
  split <;> simp [*]

theorem mem_loaderNames_of_mem_loaderNamesFor (listed : name ∈ plugins.loaderNamesFor styleType) :
    name ∈ plugins.loaderNames := by
  rw [mem_loaderNames_iff]
  exact (mem_loaderNamesFor_iff.mp listed).imp_right fun ⟨same, registered⟩ => same ▸ registered

end Preprocessors

/-- What becomes of a rule for a style type. The loaders of the type leave the top of it. So does a
condition, where an installed preprocessor goes by its name. Everything else stays. -/
structure LoadersMoved (plugins : Preprocessors) (styleType : String) (before after : Entries Value) : Prop where
  lookups : ∀ key ≠ "loaders", Entries.get? after key =
    if key ∈ plugins.loaderNamesFor styleType ∨ (key ∈ ["include", "exclude"] ∧ key ∈ plugins.ids) then none
    else Entries.get? before key
  keys : ∀ key ∈ Entries.keys after, key ∈ ["include", "exclude", "loaders"]

theorem loadersMoved_hoistStyleEntry {plugins : Preprocessors} {styleType : String} {before : Entries Value}
    (conforms : (Schema.styleEntry (plugins.loaderNamesFor styleType)).Conforms (.map before)) :
    LoadersMoved plugins styleType before (hoistStyleEntry plugins.loaderNames before) where
  lookups := by
    intro key notLoaders
    rw [get?_hoistStyleEntry, if_neg notLoaders]
    by_cases loader : key ∈ plugins.loaderNames
    · rw [if_pos (List.contains_iff_mem.mpr loader)]
      split
      · rfl
      · rename_i kept
        obtain ⟨notOfType, notCondition⟩ := not_or.mp kept
        -- a loader of another type alone is no key of the rule, as the schema has it
        refine (Entries.get?_eq_none_iff.mpr fun held => ?_).symm
        have registered : key ∈ plugins.ids := (Preprocessors.mem_loaderNames_iff.mp loader).resolve_left fun base =>
          notOfType (Preprocessors.mem_loaderNamesFor_iff.mpr (Or.inl base))
        have condition := (Schema.keys_of_styleEntry conforms held).resolve_left notOfType
        exact notCondition ⟨by simpa [notLoaders] using condition, registered⟩
    · rw [if_neg (mt List.contains_iff_mem.mp loader), if_neg]
      rintro (ofType | ⟨_, registered⟩)
      · exact loader (Preprocessors.mem_loaderNames_of_mem_loaderNamesFor ofType)
      · exact loader (Preprocessors.mem_loaderNames_iff.mpr (Or.inr registered))
  keys := by
    intro key held
    obtain ⟨child, found⟩ := Entries.mem_keys_iff.mp held
    rw [get?_hoistStyleEntry] at found
    split at found
    · rename_i loaders
      simp [loaders]
    · split at found
      · cases found
      · rename_i notLoader
        have before := Schema.keys_of_styleEntry conforms (Entries.mem_keys_iff.mpr ⟨child, found⟩)
        exact before.resolve_left fun ofType =>
          notLoader (List.contains_iff_mem.mpr (Preprocessors.mem_loaderNames_of_mem_loaderNamesFor ofType))

/-- In a compiled configuration every rule of the user for a style type has lost the loaders of its type
from the top and keeps nothing there but conditions and loaders. The conditions themselves stay as long
as no installed preprocessor is called like one. -/
theorem compiled_style_rules_have_loaders_moved {run : Invocation} {user : UserConfig} {compiled : Compiled}
    (keyed : run.WellKeyed user) (compiles : run.compile user = .ok compiled) {styleType : String} {rules : List Value}
    (held : (user.evaluate run.context).getPath? ["webpack", "styles", styleType] = some (.array rules)) :
    ∃ others, compiled.settings.toValue.getPath? ["webpack", "styles", styleType] = some (.array others) ∧
      List.Forall₂ (fun rule other => ∃ before after, rule = .map before ∧ other = .map after ∧
        LoadersMoved run.plugins styleType before after) rules others := by
  have onType (tree : Value) : tree.getPath? ["webpack", "styles", styleType] =
      (tree.getPath? ["webpack", "styles"]).bind fun styles => styles.get? styleType := by
    simpa only [Value.getPath?_single, List.cons_append, List.nil_append] using
      tree.getPath?_append ["webpack", "styles"] [styleType]
  rw [onType] at held
  obtain ⟨styles, inUser, atType⟩ := Option.bind_eq_some_iff.mp held
  obtain ⟨entries, rfl⟩ := Value.isMap_iff.mp (Value.isMap_of_get?_eq_some atType)
  have conforms := Schema.conforms_styleRules_of_styles
    (Invocation.conforms_user_styles (Invocation.clean_of_compile_eq_ok compiles) inUser) atType
  refine ⟨rules.map fun rule => rule.onMap (hoistStyleEntry run.plugins.loaderNames), ?_, ?_⟩
  · rw [onType, Invocation.getPath?_toValue_styles keyed compiles inUser, Option.bind_some, Value.get?_map, hoistStyles,
      Entries.get?_map, ← Value.get?_map, atType]
    rfl
  · rw [List.forall₂_map_right_iff, List.forall₂_same]
    intro rule listed
    obtain ⟨before, rfl⟩ := Value.isMap_iff.mp (Schema.isMap_of_styleEntry (conforms rule listed))
    exact ⟨before, _, rfl, rfl, loadersMoved_hoistStyleEntry (conforms _ listed)⟩

theorem compiled_style_rules_have_loaders_moved_css :
    let run : Invocation :=
      ⟨⟨["build"], []⟩, .production, (Preprocessors.empty.register "sass" .empty).register "exclude" .empty, none⟩
    let rule : Entries Value := [("include", .pattern "src"), ("css", .map [("modules", .bool true)]),
      ("exclude", .string "vendor"), ("loaders", .map [("postcss", .empty)])]
    let user : UserConfig := .tree (.map [("webpack", .map [("styles", .map [("css", .array [.map rule])])])])
    run.WellKeyed user ∧ ∃ compiled, run.compile user = .ok compiled ∧
      ∃ after, compiled.settings.toValue.getPath? ["webpack", "styles", "css"] = some (.array [.map after]) ∧
        LoadersMoved run.plugins "css" rule after ∧ Entries.get? after "include" = some (.pattern "src") ∧
        Entries.get? after "css" = none ∧ Entries.get? after "exclude" = none := by
  intro run rule user
  have keyed : run.WellKeyed user := .of_flags (by decide) (by decide)
  obtain ⟨_, _, _, compiles, _⟩ := Invocation.compile_of_clean keyed (by decide +kernel)
  obtain ⟨others, seen, each⟩ :=
    @compiled_style_rules_have_loaders_moved run user _ keyed compiles "css" [.map rule] rfl
  obtain ⟨other, _, ⟨before, after, same, rfl, moved⟩, none, rfl⟩ := List.forall₂_cons_left_iff.mp each
  cases List.forall₂_nil_left_iff.mp none
  cases same
  refine ⟨keyed, _, compiles, after, seen, moved, ?_, ?_, ?_⟩
  · exact (moved.lookups "include" (by decide)).trans (if_neg (by decide))
  · exact (moved.lookups "css" (by decide)).trans (if_pos (by decide))
  · exact (moved.lookups "exclude" (by decide)).trans (if_pos (by decide))

/-- A preprocessor by the name of a condition takes that condition away from rules of another type. -/
theorem compiled_style_rule_loses_condition :
    let run : Invocation := ⟨⟨["build"], []⟩, .production, Preprocessors.empty.register "include" .empty, none⟩
    let rule : Entries Value := [("include", .string "src")]
    let user : UserConfig := .tree (.map [("webpack", .map [("styles", .map [("css", .array [.map rule])])])])
    run.WellKeyed user ∧ "include" ∉ run.plugins.loaderNamesFor "css" ∧
      ∃ compiled, run.compile user = .ok compiled ∧
        compiled.settings.toValue.getPath? ["webpack", "styles", "css"] =
          some (.array [.map [("loaders", .map [("include", .map [("options", .string "src")])])]]) := by
  intro run rule user
  have keyed : run.WellKeyed user := .of_flags (by decide) (by decide)
  obtain ⟨_, settings, _, compiles, _⟩ := Invocation.compile_of_clean keyed (by decide +kernel)
  have styles : settings.toValue.getPath? ["webpack", "styles"] =
      some (.map (hoistStyles run.plugins.loaderNames [("css", .array [.map rule])])) :=
    Invocation.getPath?_toValue_styles keyed compiles rfl
  refine ⟨keyed, by decide, _, compiles, ?_⟩
  have onType := settings.toValue.getPath?_append ["webpack", "styles"] ["css"]
  rw [styles] at onType
  exact onType

end BuildConfig
