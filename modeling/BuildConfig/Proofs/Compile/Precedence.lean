import BuildConfig.Proofs.Compile.Runs
import BuildConfig.Proofs.Merge.Precedence

namespace BuildConfig

open Value (SameOutside notNull?)

/-- The places where layers do not simply cover each other: arrays are appended there, or loader
options moved. -/
def unlayered : List (List String) :=
  [["webpack", "rules"], ["webpack", "styles"], ["babel", "presets"], ["babel", "plugins"]]

/-- What a tree shows at a place that a layer settles: the very value of the layer, a map if the
layer has one, and nothing where the layer has no map on the way. -/
structure Follows (tree layer : Value) (place : List String) : Prop where
  value : ∀ value, layer.at? place = some value → value.isMap = false → tree.at? place = some value
  map : ∀ value, layer.at? place = some value → value.isMap = true →
    ∃ entries, tree.at? place = some (.map entries)
  cut : ∀ outer value, outer <+: place → outer ≠ place → layer.at? outer = some value → value.isMap = false →
    tree.at? place = none

theorem follows_of_rel {tree layer : Value} {place : List String}
    (rel : Option.Rel SameOutside (layer.at? place) (tree.at? place)) : Follows tree layer place where
  value := by
    intro value held notMap
    rw [held] at rel
    obtain ⟨seen, found, rfl | ⟨isMap, _⟩⟩ := exists_of_rel_some rel
    · exact found
    · rw [notMap] at isMap
      cases isMap
  map := by
    intro value held isMap
    rw [held] at rel
    obtain ⟨seen, found, rfl | ⟨_, seenMap⟩⟩ := exists_of_rel_some rel
    · obtain ⟨entries, rfl⟩ := Value.isMap_iff.mp isMap
      exact ⟨entries, found⟩
    · obtain ⟨entries, rfl⟩ := Value.isMap_iff.mp seenMap
      exact ⟨entries, found⟩
  cut := by
    intro outer value within proper held notMap
    rw [Value.at?_eq_none_of_cut within proper held notMap] at rel
    cases seen : tree.at? place with
    | none => rfl
    | some => rw [seen] at rel; cases rel

/-- Settings show the same as the tree they are split from. -/
theorem at?_of_lookups {tree settings : Value} (lookups : ∀ key, settings.get? key = notNull? (tree.get? key))
    {place : List String} (nonempty : place ≠ []) : settings.at? place = tree.at? place := by
  obtain ⟨key, rest, rfl⟩ := List.exists_cons_of_ne_nil nonempty
  rw [Value.at?_cons, Value.at?_cons, lookups key]
  cases found : tree.get? key with
  | none => rfl
  | some child =>
    by_cases null : child = .null
    · rw [null, Option.bind_some, Value.null_at?]
      rfl
    · rw [Value.notNull?_some null]

theorem replaces_of_outside {place : List String} (outside : ∀ special ∈ unlayered, ¬special <+: place) :
    layerStrategy.concatenatesAt place = false := by
  have notPresets : place ≠ ["babel", "presets"] := by
    rintro rfl
    exact outside _ (by simp [unlayered]) (List.prefix_refl _)
  have notPlugins : place ≠ ["babel", "plugins"] := by
    rintro rfl
    exact outside _ (by simp [unlayered]) (List.prefix_refl _)
  simp only [MergeStrategy.concatenatesAt, layerStrategy, List.contains_eq_mem, List.mem_cons, notPresets,
    notPlugins, List.not_mem_nil, or_self, decide_false, Bool.false_or]
  rfl

theorem at?_mergeLayers_of_undecided {layers : List Value} {place : List String}
    (distinct : ∀ layer ∈ layers, layer.DistinctKeys) (nonempty : place ≠ [])
    (undecided : ∀ layer ∈ layers, ¬layer.Decides place) : (mergeLayers layers.reverse).at? place = none := by
  rw [mergeLayers, Value.at?_foldl_of_undecided (fun layer listed => distinct layer (List.mem_reverse.mp listed))
    (fun layer listed => undecided layer (List.mem_reverse.mp listed))]
  obtain ⟨key, rest, rfl⟩ := List.exists_cons_of_ne_nil nonempty
  rw [Value.at?_cons]
  rfl

/-- The first of the layers that decide a place, the highest coming first, is the one to be seen. -/
theorem rel_mergeLayers_of_decided {above below : List Value} {layer : Value} {place : List String}
    (distinct : ∀ tree ∈ above ++ layer :: below, tree.DistinctKeys)
    (outside : ∀ special ∈ unlayered, ¬special <+: place) (undecided : ∀ higher ∈ above, ¬higher.Decides place)
    (decides : layer.Decides place) :
    Option.Rel SameOutside (layer.at? place) ((mergeLayers (above ++ layer :: below).reverse).at? place) := by
  have order : (above ++ layer :: below).reverse = below.reverse ++ layer :: above.reverse := by
    rw [List.reverse_append, List.reverse_cons, List.append_assoc, List.singleton_append]
  have upper : ∀ tree ∈ layer :: above.reverse, tree.DistinctKeys := by
    intro tree listed
    refine distinct tree ?_
    rcases List.mem_cons.mp listed with rfl | higher
    · simp
    · exact List.mem_append_left _ (List.mem_reverse.mp higher)
  rw [order, mergeLayers]
  exact Value.at?_foldl_of_decided upper (fun higher listed => undecided higher (List.mem_reverse.mp listed)) decides
    (replaces_of_outside outside) .empty

theorem distinctKeys_layers {run : Invocation} {user : UserConfig} (keyed : run.WellKeyed user)
    (clean : (run.check user).report.hasErrors = false) (type : Option ProjectType) :
    ∀ layer ∈ run.layers user type, layer.DistinctKeys :=
  fun layer listed => (Invocation.layer_of_mem_layers keyed clean type layer listed).distinct

/-- Flags go before the user's part, which goes before the defaults of the type and the baseline: at
every place of a compiled configuration the highest layer that decides it is followed, and where none
does there is nothing. -/
theorem compiled_settings_follow_highest_layer {run : Invocation} {user : UserConfig} {compiled : Compiled}
    (keyed : run.WellKeyed user) (compiles : run.compile user = .ok compiled) :
    ∃ type, Invocation.declaredType (run.check user) = .ok type ∧
      ∀ place ≠ [], (∀ special ∈ unlayered, ¬special <+: place) →
        ((∀ layer ∈ run.layers user type, ¬layer.Decides place) → compiled.settings.toValue.at? place = none) ∧
        ∀ above layer below, run.layers user type = above ++ layer :: below →
          (∀ higher ∈ above, ¬higher.Decides place) → layer.Decides place →
          Follows compiled.settings.toValue layer place := by
  have clean := Invocation.clean_of_compile_eq_ok compiles
  obtain ⟨type, settings, declared, result, lookups⟩ := Invocation.compile_of_clean keyed clean
  rw [compiles] at result
  cases result
  refine ⟨type, declared, fun place nonempty outside => ?_⟩
  have distinct := distinctKeys_layers keyed clean type
  have hoisted : Option.Rel SameOutside ((mergeLayers (run.layers user type).reverse).at? place)
      (settings.toValue.at? place) := by
    rw [at?_of_lookups lookups nonempty]
    refine Value.rel_notNull? (fun _ _ => SameOutside.null_iff) ?_
    exact sameOutside_hoistConfig run.plugins _ (outside _ (by simp [unlayered])) (outside _ (by simp [unlayered]))
  constructor
  · intro undecided
    rw [at?_mergeLayers_of_undecided distinct nonempty undecided] at hoisted
    cases seen : settings.toValue.at? place with
    | none => rfl
    | some => rw [seen] at hoisted; cases hoisted
  · intro above layer below split undecided decides
    rw [split] at distinct hoisted
    have merged := rel_mergeLayers_of_decided distinct outside undecided decides
    exact follows_of_rel (rel_trans (fun _ _ _ => SameOutside.trans) merged hoisted)

/-- A flag over the user's part, a value of the user's part alone, and one that cuts off what would
be below it. -/
theorem compiled_settings_follow_highest_layer_host :
    let run : Invocation :=
      ⟨⟨["serve"], [("host", .string "0.0.0.0")]⟩, .development, .empty, some "sprout.config.json"⟩
    let user : UserConfig := .tree (.map
      [("devServer", .map [("host", .string "localhost"), ("open", .bool true), ("port", .null)]),
        ("webpack", .map [("autoprefixer", .bool false)])])
    run.WellKeyed user ∧ ∃ compiled, run.compile user = .ok compiled ∧
      compiled.settings.toValue.at? ["devServer", "host"] = some (.string "0.0.0.0") ∧
      compiled.settings.toValue.at? ["devServer", "open"] = some (.bool true) ∧
      compiled.settings.toValue.at? ["webpack", "autoprefixer", "browsers"] = none := by
  intro run user
  have keyed : run.WellKeyed user := .of_flags (by decide) (by decide)
  have clean : (run.check user).report.hasErrors = false := by
    simp only [run, user]
    decide +kernel
  obtain ⟨_, settings, _, compiles, _⟩ := Invocation.compile_of_clean keyed clean
  obtain ⟨type, _, precedence⟩ := compiled_settings_follow_highest_layer keyed compiles
  have outside (place : List String) (apart : unlayered.all (fun special => !special.isPrefixOf place) = true) :
      ∀ special ∈ unlayered, ¬special <+: place := by
    intro special listed within
    have excluded := List.all_eq_true.mp apart special listed
    rw [List.isPrefixOf_iff_prefix.mpr within] at excluded
    cases excluded
  have host := (precedence ["devServer", "host"] (by simp) (outside _ (by decide))).2 [] _ _ rfl (by simp)
    (by simp only [run, user]; decide +kernel)
  have opened := (precedence ["devServer", "open"] (by simp) (outside _ (by decide))).2
    [(run.check user).overrides] _ _ rfl (by simp only [run, user]; decide +kernel)
    (by simp only [run, user]; decide +kernel)
  have browsers := (precedence ["webpack", "autoprefixer", "browsers"] (by simp) (outside _ (by decide))).2
    [(run.check user).overrides] _ _ rfl (by simp only [run, user]; decide +kernel)
    (by simp only [run, user]; decide +kernel)
  refine ⟨keyed, _, compiles, host.value _ rfl rfl, opened.value _ rfl rfl, ?_⟩
  exact browsers.cut ["webpack", "autoprefixer"] (.bool false) (by decide) (by decide) rfl rfl

end BuildConfig
