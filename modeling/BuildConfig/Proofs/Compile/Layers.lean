import BuildConfig.Defaults
import BuildConfig.Proofs.Hoist.Alike
import BuildConfig.Proofs.Hoist.Conformance
import BuildConfig.Proofs.Merge.Conformance

namespace BuildConfig

/-- What the compiler may lay over another tree: it keeps to the schema and repeats no key. -/
structure Layer (plugins : Preprocessors) (tree : Value) : Prop where
  conforms : (Schema.userConfig plugins).Conforms tree
  distinct : tree.DistinctKeys

/-- A layer with a map in every namespace. -/
structure Complete (plugins : Preprocessors) (tree : Value) : Prop extends Layer plugins tree where
  namespaces : ∀ name ∈ namespaces, ∃ entries, tree.get? name = some (.map entries)

section Defaults

/-- What holds of the empty map and survives each of the settings that project types make holds of
the defaults of every type. -/
theorem projectDefaults_induction {holds : Value → Prop} (empty : holds .empty)
    (presets : ∀ config names, holds config → holds (withPresets config names))
    (aliases : ∀ config compat, holds config → holds (withAliases config compat))
    (removing : ∀ config mode, holds config →
      holds (config.insertPath ["babel", "removePropTypes"] (removePropTypes mode)))
    (type : Option ProjectType) (mode : BuildMode) (args : Arguments) :
    holds (projectDefaults type mode args) := by
  have react : holds (reactDefaults mode args) := by
    have start := presets .empty (reactPresets mode args) empty
    unfold reactDefaults
    split
    · exact aliases _ _ start
    · exact start
  cases type with
  | none => exact empty
  | some type =>
    cases type with
    | reactApp => exact react
    | reactComponent =>
      rw [projectDefaults]
      split
      · exact react
      · exact removing _ _ react
    | preactApp => exact aliases _ _ (presets _ _ empty)
    | infernoApp => exact aliases _ _ (presets _ _ empty)
    | webApp => exact empty
    | webModule => exact empty

variable (plugins : Preprocessors)

theorem declares_presets :
    (Schema.userConfig plugins).Declares ["babel", "presets"] (Schema.ofKind .array) := by
  have inBabel : Schema.babel.Declares ["presets"] (Schema.ofKind .array) := Schema.declares_record rfl .here
  exact Schema.declares_record rfl inBabel

theorem declares_removePropTypes :
    (Schema.userConfig plugins).Declares ["babel", "removePropTypes"] (Schema.ofKind .object).orFalse := by
  have inBabel : Schema.babel.Declares ["removePropTypes"] (Schema.ofKind .object).orFalse :=
    Schema.declares_record rfl .here
  exact Schema.declares_record rfl inBabel

theorem declares_aliases : (Schema.userConfig plugins).Declares ["webpack", "aliases"]
    ((Schema.ofKind .object).withValues (Schema.ofKind .string)) := by
  have inWebpack : (Schema.webpack plugins).Declares ["aliases"]
      ((Schema.ofKind .object).withValues (Schema.ofKind .string)) := Schema.declares_record rfl .here
  exact Schema.declares_record rfl inWebpack

theorem conforms_empty : (Schema.userConfig plugins).Conforms .empty :=
  (declares_presets plugins).conforms_empty (by simp)

theorem conforms_aliases (compat : Compat) :
    ((Schema.ofKind .object).withValues (Schema.ofKind .string)).Conforms compat.aliases := by
  have keeps := Schema.composable_plain
  have unmixed := (keeps.withValues (keeps.ofKind .object) (keeps.ofKind .string)).imp
    fun _ => Alternatives.Plain.unmixed
  refine (Schema.problems_findings_iff unmixed .root compat.aliases).mp ?_
  cases compat <;> rfl

theorem conforms_removePropTypes (mode : BuildMode) :
    (Schema.ofKind .object).orFalse.Conforms (removePropTypes mode) := by
  have unmixed := (Schema.composable_plain.orFalse .object).imp fun _ => Alternatives.Plain.unmixed
  refine (Schema.problems_findings_iff unmixed .root (removePropTypes mode)).mp ?_
  cases mode <;> rfl

theorem conforms_presets (names : List String) :
    (Schema.ofKind .array).Conforms (.array (names.map .string)) :=
  (Schema.conforms_ofKinds_iff (by simp)).mpr ⟨.array, by simp, rfl⟩

theorem conforms_projectDefaults (type : Option ProjectType) (mode : BuildMode) (args : Arguments) :
    (Schema.userConfig plugins).Conforms (projectDefaults type mode args) := by
  refine projectDefaults_induction (conforms_empty plugins) ?_ ?_ ?_ type mode args
  · intro config names before
    exact (declares_presets plugins).conforms_insertPath (Or.inr before) (conforms_presets names)
  · intro config compat before
    exact (declares_aliases plugins).conforms_insertPath (Or.inr before) (conforms_aliases compat)
  · intro config mode before
    exact (declares_removePropTypes plugins).conforms_insertPath (Or.inr before)
      (conforms_removePropTypes mode)

theorem distinctKeys_strings (names : List String) : (Value.array (names.map .string)).DistinctKeys := by
  rw [Value.distinctKeys_array]
  intro item held
  obtain ⟨name, _, rfl⟩ := List.mem_map.mp held
  exact Value.distinctKeys_leaf rfl rfl

theorem distinctKeys_projectDefaults (type : Option ProjectType) (mode : BuildMode) (args : Arguments) :
    (projectDefaults type mode args).DistinctKeys := by
  refine projectDefaults_induction Value.distinctKeys_empty ?_ ?_ ?_ type mode args
  · intro config names before
    exact before.insertPath (distinctKeys_strings names) _
  · intro config compat before
    refine before.insertPath ?_ _
    cases compat <;> decide
  · intro config mode before
    refine before.insertPath ?_ _
    cases mode <;> decide

theorem layer_projectDefaults (type : Option ProjectType) (mode : BuildMode) (args : Arguments) :
    Layer plugins (projectDefaults type mode args) :=
  ⟨conforms_projectDefaults plugins type mode args, distinctKeys_projectDefaults type mode args⟩

theorem complete_baseline : Complete plugins baseline where
  conforms := (Schema.problems_findings_iff (Schema.unmixed_userConfig plugins) .root baseline).mp rfl
  distinct := by decide
  namespaces := by
    intro name listed
    simp only [namespaces, List.mem_cons, List.not_mem_nil, or_false] at listed
    rcases listed with rfl | rfl | rfl | rfl | rfl <;> exact ⟨[], rfl⟩

end Defaults

section Steps

variable {plugins : Preprocessors}

/-- Every namespace of a conforming tree is a map, or null. -/
theorem Layer.isMap_namespace {tree child : Value} (layer : Layer plugins tree) {name : String}
    (listed : name ∈ namespaces) (found : tree.get? name = some child) (notNull : child ≠ .null) :
    child.isMap = true := by
  have field {target : Schema} (declares : (Schema.userConfig plugins).Declares [name] target) :
      target.Conforms child :=
    declares.conforms_getPath? layer.conforms ((Value.getPath?_single tree name).trans found) notNull
  simp only [namespaces, List.mem_cons, List.not_mem_nil, or_false] at listed
  rcases listed with rfl | rfl | rfl | rfl | rfl
  · exact Schema.isMap_of_record (field (Schema.declares_record rfl .here))
  · exact Schema.conforms_object_iff.mp (field (Schema.declares_record rfl .here))
  · exact Schema.isMap_of_record (field (Schema.declares_record rfl .here))
  · exact Schema.isMap_of_record (field (Schema.declares_record rfl .here))
  · exact Schema.isMap_of_record (field (Schema.declares_record rfl .here))

/-- A layer over a namespace that is a map sets entries of that map. One that has nothing there, or a
null, sets none. -/
theorem Layer.get?_mergeWith {base overlay : Value} (above : Layer plugins overlay) {name : String}
    (listed : name ∈ namespaces) {entries : Entries Value} (atName : base.get? name = some (.map entries)) :
    (Value.mergeWith layerStrategy base overlay).get? name =
      some (.map (Value.mergeEntries layerStrategy [name] entries ((overlay.get? name).getD .empty).entries)) := by
  rw [Value.mergeWith, Value.get?_mergeAt layerStrategy [] (Value.isMap_of_get?_eq_some atName)
    (Schema.isMap_of_record above.conforms) above.distinct, atName]
  cases found : overlay.get? name with
  | none =>
    rw [Value.mergeUnder_none, Option.getD_none, Value.empty, Value.entries_map, Value.mergeEntries_nil]
  | some child =>
    by_cases null : child = .null
    · subst child
      have nothing : Value.entries .null = [] := rfl
      rw [Value.mergeUnder_null, Option.getD_some, nothing, Value.mergeEntries_nil]
    · obtain ⟨inside, rfl⟩ := Value.isMap_iff.mp (above.isMap_namespace listed found null)
      rw [Value.mergeUnder_some layerStrategy _ _ null, Option.elim_some, Value.mergeAt_map]
      rfl

theorem Complete.mergeWith {base overlay : Value} (below : Complete plugins base) (above : Layer plugins overlay) :
    Complete plugins (Value.mergeWith layerStrategy base overlay) where
  conforms := (Schema.mergeable_userConfig plugins).conforms_mergeAt layerStrategy [] below.distinct above.distinct
    below.conforms above.conforms
  distinct := below.distinct.mergeAt layerStrategy [] above.distinct
  namespaces := by
    intro name listed
    obtain ⟨entries, atName⟩ := below.namespaces name listed
    exact ⟨_, above.get?_mergeWith listed atName⟩

/-- All layers over the baseline make a complete configuration. -/
theorem complete_mergeLayers {layers : List Value} (each : ∀ layer ∈ layers, Layer plugins layer) :
    Complete plugins (mergeLayers (baseline :: layers)) := by
  have start : Value.mergeWith layerStrategy .empty baseline = baseline := rfl
  rw [mergeLayers, List.foldl_cons, start]
  exact List.foldlRecOn _ _ (complete_baseline plugins) fun _ below layer listed =>
    below.mergeWith (each layer listed)

theorem Complete.hoistConfig {tree : Value} (complete : Complete plugins tree) :
    Complete plugins (hoistConfig plugins tree) where
  conforms := Schema.conforms_hoistConfig complete.conforms
  distinct := complete.distinct.hoistConfig plugins
  namespaces := by
    intro name listed
    obtain ⟨entries, atName⟩ := complete.namespaces name listed
    have kept := @sameOutside_hoistConfig plugins tree [name] (by simp) (by simp)
    rw [Value.getPath?_single, Value.getPath?_single, atName] at kept
    obtain ⟨child, found, same⟩ := exists_of_rel_some kept
    rcases same with rfl | ⟨_, isMap⟩
    · exact ⟨entries, found⟩
    · obtain ⟨others, rfl⟩ := Value.isMap_iff.mp isMap
      exact ⟨others, found⟩

end Steps

end BuildConfig
