import BuildConfig.Proofs.Compile.ProjectType

namespace BuildConfig

/-- A complete configuration without a null directly inside a namespace, so that whoever reads one has
to ask for nothing but the presence of a key. -/
structure Ready (plugins : Preprocessors) (tree : Value) : Prop extends Complete plugins tree where
  notNull : ∀ name ∈ BuildConfig.namespaces, ∀ key, tree.getPath? [name, key] ≠ some .null

section Steps

variable {plugins : Preprocessors}

theorem ready_baseline (plugins : Preprocessors) : Ready plugins baseline where
  toComplete := complete_baseline plugins
  notNull := by
    intro name listed key
    simp only [namespaces, List.mem_cons, List.not_mem_nil, or_false] at listed
    rcases listed with rfl | rfl | rfl | rfl | rfl <;> (intro null; cases null)

theorem Ready.mergeWith {base overlay : Value} (below : Ready plugins base) (above : Layer plugins overlay) :
    Ready plugins (Value.mergeWith layerStrategy base overlay) where
  toComplete := below.toComplete.mergeWith above
  notNull := by
    intro name listed key
    obtain ⟨entries, atName⟩ := below.namespaces name listed
    have before := below.notNull name listed key
    rw [Value.getPath?_cons, atName, Option.bind_some, Value.getPath?_single, Value.get?_map] at before
    have distinct : Entries.Distinct ((overlay.get? name).getD .empty).entries := by
      cases found : overlay.get? name with
      | none => exact Entries.distinct_nil
      | some child => exact (above.distinct.get? found).entries
    rw [Value.getPath?_cons, above.get?_mergeWith listed atName, Option.bind_some, Value.getPath?_single,
      Value.get?_map, Value.get?_mergeEntries layerStrategy [name] entries distinct]
    exact Value.mergeUnder_ne_null layerStrategy _ _ before

theorem ready_mergeLayers {layers : List Value} (each : ∀ layer ∈ layers, Layer plugins layer) :
    Ready plugins (mergeLayers (baseline :: layers)) := by
  have start : Value.mergeWith layerStrategy .empty baseline = baseline := rfl
  rw [mergeLayers, List.foldl_cons, start]
  exact List.foldlRecOn _ _ (ready_baseline plugins) fun _ below layer listed =>
    below.mergeWith (each layer listed)

/-- A map that is changed does not become null, and nothing does that is not further inside of it. -/
theorem getPath?_updateMap_ne_null {config : Value} {path place : List String}
    (notInside : path <+: place → path = place) (change : Entries Value → Entries Value)
    (notNull : config.getPath? place ≠ some .null) : (config.updateMap path change).getPath? place ≠ some .null := by
  unfold Value.updateMap
  split
  · rename_i entries found
    by_cases within : path <+: place
    · rw [← notInside within, Value.getPath?_insertPath_self]
      simp
    · intro null
      have rel := sameKeys_insertPath found within (.map (change entries))
      rw [null] at rel
      obtain ⟨old, wasAt, same⟩ := exists_of_some_rel rel
      rw [same.1.null_iff.mpr rfl] at wasAt
      exact notNull wasAt
  · exact notNull

theorem Ready.hoistConfig {tree : Value} (ready : Ready plugins tree) : Ready plugins (hoistConfig plugins tree) where
  toComplete := ready.toComplete.hoistConfig
  notNull := by
    intro name listed key
    have atRules : ["webpack", "rules"] <+: [name, key] → _ := fun within => within.eq_of_length rfl
    have atStyles : ["webpack", "styles"] <+: [name, key] → _ := fun within => within.eq_of_length rfl
    have rules := getPath?_updateMap_ne_null atRules hoistRules (ready.notNull name listed key)
    exact getPath?_updateMap_ne_null atStyles (hoistStyles plugins.loaderNames) rules

end Steps

theorem Invocation.ready_tree {run : Invocation} {user : UserConfig} (keyed : run.WellKeyed user)
    (clean : (run.check user).report.hasErrors = false) (type : Option ProjectType) :
    Ready run.plugins (run.tree user type) := by
  rw [tree_eq]
  refine (ready_mergeLayers fun layer listed => layer_of_mem_layers keyed clean type layer ?_).hoistConfig
  simp only [List.mem_cons, List.not_mem_nil, or_false] at listed
  rcases listed with rfl | rfl | rfl <;> simp [layers]

/-- The settings of a run have the entries of its tree, which is ready. -/
theorem Invocation.ready_of_compile_eq_ok {run : Invocation} {user : UserConfig} {compiled : Compiled}
    (keyed : run.WellKeyed user) (compiles : run.compile user = .ok compiled) :
    ∃ type, declaredType (run.check user) = .ok type ∧ Ready run.plugins (run.tree user type) ∧
      compiled.settings.toValue.SameEntries (run.tree user type) := by
  have clean := clean_of_compile_eq_ok compiles
  obtain ⟨type, settings, declared, result, lookups⟩ := compile_of_clean keyed clean
  rw [compiles] at result
  cases result
  exact ⟨type, declared, ready_tree keyed clean type, sameEntries_tree keyed clean lookups⟩

/-- The merged tree of a run has a map for every namespace, with no null at the top of it, and no other
key but that of a type of project. Splitting it into settings loses none of its entries. -/
theorem compiled_settings_keep_ready_namespaces {run : Invocation} {user : UserConfig} {compiled : Compiled}
    (keyed : run.WellKeyed user) (compiles : run.compile user = .ok compiled) :
    ∃ type entries, Invocation.declaredType (run.check user) = .ok type ∧ run.tree user type = .map entries ∧
      (∀ name ∈ namespaces, ∃ inside, Entries.get? entries name = some (.map inside) ∧
        ∀ key value, (key, value) ∈ inside → value ≠ .null) ∧
      (∀ key value, (key, value) ∈ entries →
        key ∈ namespaces ∨ (key = "type" ∧ ∃ named : ProjectType, value = .string named.name)) ∧
      compiled.settings.toValue.SameEntries (.map entries) := by
  obtain ⟨type, declared, ready, same⟩ := Invocation.ready_of_compile_eq_ok keyed compiles
  obtain ⟨entries, asMap⟩ := Value.isMap_iff.mp (Schema.isMap_of_record ready.conforms)
  rw [asMap] at ready same
  have distinct : Entries.Distinct entries := ready.distinct.entries
  refine ⟨type, entries, declared, asMap, fun name listed => ?_, fun key value held => ?_, same⟩
  · obtain ⟨inside, atName⟩ := ready.namespaces name listed
    refine ⟨inside, atName, fun key value held null => ?_⟩
    have notNull := ready.notNull name listed key
    have distinctInside : Entries.Distinct inside := (ready.distinct.get? atName).entries
    rw [Value.getPath?_cons, atName, Option.bind_some, Value.getPath?_single] at notNull
    exact notNull (null ▸ distinctInside.get?_of_mem held)
  · have found := distinct.get?_of_mem held
    rcases ready.toLayer.key_cases found with rfl | listed
    · have notNull : value ≠ .null := fun null =>
        Invocation.get?_tree_ne_null keyed (Invocation.clean_of_compile_eq_ok compiles) type "type"
          (asMap ▸ null ▸ found)
      obtain ⟨named, _, atType⟩ := ready.toLayer.typeNamed
      rw [Value.get?_map, found, Value.notNull?_some notNull] at atType
      obtain ⟨named, rfl, rfl⟩ := Option.map_eq_some_iff.mp atType.symm
      exact Or.inr ⟨rfl, named, rfl⟩
    · exact Or.inl listed

/-- Nulls for the type, a whole namespace and keys of others, and a null flag beside them. -/
theorem compiled_settings_keep_ready_namespaces_nulls :
    let run : Invocation := ⟨⟨["serve"], [("type", .null), ("open", .null)]⟩, .development, .empty, none⟩
    let user : UserConfig := .tree (.map
      [("type", .null), ("karma", .null), ("npm", .map [("umd", .null), ("cjs", .bool true)]),
        ("devServer", .map [("open", .null), ("proxy", .map [("api", .null)])])])
    run.WellKeyed user ∧ ∃ compiled entries, run.compile user = .ok compiled ∧
      (∀ name ∈ namespaces, ∃ inside, Entries.get? entries name = some (.map inside) ∧
        ∀ key value, (key, value) ∈ inside → value ≠ .null) ∧
      compiled.settings.toValue.SameEntries (.map entries) := by
  intro run user
  have keyed : run.WellKeyed user := .of_flags (by decide) (by decide)
  obtain ⟨_, _, _, compiles, _⟩ := Invocation.compile_of_clean keyed (by decide +kernel)
  obtain ⟨_, entries, _, _, ready, _, same⟩ := compiled_settings_keep_ready_namespaces keyed compiles
  exact ⟨keyed, _, entries, compiles, ready, same⟩

end BuildConfig
