import BuildConfig.Proofs.Hoist.Lookup
import BuildConfig.Proofs.Schema.DeclaredPaths

namespace BuildConfig.Schema

/-- What a place that asks for certain kinds, and for nothing else, accepts. -/
theorem conforms_ofKinds_iff {kinds : List Kind} (some : kinds ≠ []) {value : Value} :
    Conforms (ofKinds kinds) value ↔ ∃ kind ∈ kinds, kind.accepts value = true := by
  constructor
  · intro conforms
    rcases Conforms.passes conforms with ⟨_, listed, _⟩ | ⟨choices, _⟩ | ⟨noKinds, _⟩ | byKind
    · cases listed
    · exact absurd rfl choices
    · exact absurd noKinds some
    · exact byKind
  · intro byKind
    by_cases isMap : value.isMap = true
    · obtain ⟨entries, rfl⟩ := Value.isMap_iff.mp isMap
      exact .map (Or.inr byKind) (Or.inl rfl) (Or.inl rfl) (by simp) (by simp)
    by_cases isArray : value.isArray = true
    · obtain ⟨members, rfl⟩ := Value.isArray_iff.mp isArray
      exact .array (Or.inr byKind) (by simp)
    · exact .scalar (Or.inr byKind) (Bool.not_eq_true _ ▸ isMap) (Bool.not_eq_true _ ▸ isArray)

theorem conforms_object_iff {value : Value} : Conforms (ofKind .object) value ↔ value.isMap = true := by
  rw [ofKind, conforms_ofKinds_iff (by simp)]
  cases value <;> simp [Kind.accepts, Value.isMap]

/-- The only exception is `false`. -/
theorem falseException_scalar {kinds : List Kind} {choices : List String} {description : Option String} :
    (Alternatives.mk kinds choices [.bool false] description).ScalarExceptions := by
  intro exception listed
  rw [List.mem_singleton.mp listed]
  exact ⟨rfl, rfl⟩

/-- An open map whose values all have the same shape. -/
theorem conforms_withValues_iff {other : Schema} {entries : Entries Value} :
    Conforms ((ofKind .object).withValues other) (.map entries) ↔
      ∀ key child, (key, child) ∈ entries → Conforms other child := by
  show Conforms (.node ⟨[.object], [], [], none⟩ [] .allow [] none (some other) none) _ ↔ _
  rw [conforms_map_iff (Alternatives.noExceptions_scalar.map _)]
  constructor
  · rintro ⟨_, _, _, _, inside⟩ key child held
    exact inside other rfl key child held (by simp)
  · intro inside
    refine ⟨Or.inr ⟨.object, by simp, rfl⟩, Or.inl rfl, Or.inl rfl, by simp, ?_⟩
    rintro _ ⟨⟩ key child held _
    exact inside key child held

theorem rule_node : rule = .node ⟨[.object], [], [], none⟩
    [("test", ofKinds [.pattern, .string]), ("include", condition), ("exclude", condition),
      ("loader", ofKind .string), ("use", ofKind .array), ("options", ofKind .object)]
    .allow [] none none none := rfl

/-- Gathering the options of a rule leaves its own keys as they are. -/
theorem conforms_hoistRule {entries : Entries Value} (conforms : Conforms rule (.map entries)) :
    Conforms rule (.map (hoistRule entries)) := by
  cases present : Entries.contains entries "options" with
  | true =>
    rw [hoistRule_of_options present]
    exact conforms
  | false =>
    rw [rule_node, conforms_map_iff (Alternatives.noExceptions_scalar.map _)] at conforms ⊢
    obtain ⟨admitted, known, required, declared, _⟩ := conforms
    refine ⟨admitted.map _, Or.inl rfl, Or.inl rfl, ?_, by simp⟩
    intro name field isDeclared child found notNull
    rw [get?_hoistRule present] at found
    split at found
    · rename_i options
      subst name
      have object : field = ofKind .object := by simpa using isDeclared
      split at found
      · rw [object, ← Option.some.inj found]
        exact conforms_object_iff.mpr rfl
      · cases found
    · split at found
      · exact declared name field isDeclared child found notNull
      · cases found

theorem conforms_hoistRules {rules : Entries Value}
    (conforms : Conforms ((ofKind .object).withValues rule) (.map rules)) :
    Conforms ((ofKind .object).withValues rule) (.map (hoistRules rules)) := by
  rw [conforms_withValues_iff] at conforms ⊢
  intro key child held
  obtain ⟨⟨name, original⟩, listed, same⟩ := List.mem_map.mp held
  obtain ⟨rfl, rfl⟩ := Prod.mk.inj same
  have before := conforms name original listed
  cases original with
  | map entries => exact conforms_hoistRule before
  | _ => exact before

theorem styleEntry_node (loaderNames : List String) : styleEntry loaderNames =
    .node ⟨[.object], [], [], none⟩
      (Entries.assign [("include", condition), ("exclude", condition),
        ("loaders", (ofKind .object).withValues (ofKind .object))]
        (loaderNames.map fun name => (name, ofKind .object)))
      (.reject styleRuleProps) [] none none none :=
  withFields_node

/-- The loaders of a style rule stay maps of maps, wherever an identifier stands for `loaders`
itself and other shapes are allowed there. -/
theorem conforms_gatheredLoaders {allLoaders loaderNames : List String} {entries : Entries Value} {field : Schema}
    (isDeclared : ("loaders", field) ∈ Entries.assign
      [("include", condition), ("exclude", condition), ("loaders", (ofKind .object).withValues (ofKind .object))]
      (loaderNames.map fun name => (name, ofKind .object)))
    (before : ∀ child, Entries.get? entries "loaders" = some child → child ≠ .null → Conforms field child) :
    Conforms field (.map (gatheredLoaders allLoaders entries)) := by
  rcases Entries.mem_assign_cases isDeclared with loader | base
  · obtain ⟨_, _, same⟩ := List.mem_map.mp loader
    rw [← (Prod.mk.inj same).2]
    exact conforms_object_iff.mpr rfl
  · have values : field = (ofKind .object).withValues (ofKind .object) := by simpa using base
    subst values
    refine conforms_withValues_iff.mpr fun key child held => ?_
    refine conforms_object_iff.mpr (isMap_of_mem_gatheredLoaders (fun name loader listed => ?_) held)
    cases atLoaders : Entries.get? entries "loaders" with
    | none => simp [atLoaders, Value.empty] at listed
    | some declared =>
      rw [atLoaders, Option.getD_some] at listed
      cases declared with
      | map inside =>
        have conforms := before (.map inside) atLoaders (by simp)
        exact conforms_object_iff.mp (conforms_withValues_iff.mp conforms name loader listed)
      | _ => simp [Value.entries] at listed

/-- Moving loader keys keeps a style rule within its schema, whatever loaders other style types
have. -/
theorem conforms_hoistStyleEntry {loaderNames : List String} (allLoaders : List String)
    {entries : Entries Value} (conforms : Conforms (styleEntry loaderNames) (.map entries)) :
    Conforms (styleEntry loaderNames) (.map (hoistStyleEntry allLoaders entries)) := by
  rw [styleEntry_node, conforms_map_iff (Alternatives.noExceptions_scalar.map _)] at conforms ⊢
  obtain ⟨admitted, known, _, declared, _⟩ := conforms
  have known := known.resolve_left (by simp)
  refine ⟨admitted.map _, Or.inr fun key held => ?_, Or.inl rfl, ?_, by simp⟩
  · obtain ⟨child, found⟩ := Entries.mem_keys_iff.mp held
    rw [get?_hoistStyleEntry] at found
    split at found
    · rename_i loaders
      rw [loaders, Entries.mem_keys_assign]
      exact Or.inr (by simp)
    · split at found
      · cases found
      · exact known key (Entries.mem_keys_iff.mpr ⟨child, found⟩)
  · intro name field isDeclared child found notNull
    rw [get?_hoistStyleEntry] at found
    split at found
    · rename_i loaders
      subst name
      split at found
      · rw [← Option.some.inj found]
        exact conforms_gatheredLoaders isDeclared (declared "loaders" field isDeclared)
      · cases found
    · split at found
      · cases found
      · exact declared name field isDeclared child found notNull

theorem conforms_styleRules {loaderNames : List String} (allLoaders : List String) {rules : Value}
    (conforms : Conforms ((ofKind .array).withItems (styleEntry loaderNames)) rules) :
    Conforms ((ofKind .array).withItems (styleEntry loaderNames))
      (rules.onItems fun rule => rule.onMap (hoistStyleEntry allLoaders)) := by
  cases rules with
  | array members =>
    have asNode : (ofKind .array).withItems (styleEntry loaderNames) =
        .node ⟨[.array], [], [], none⟩ [] .allow [] (some (styleEntry loaderNames)) none none := rfl
    rw [asNode, conforms_array_iff (Alternatives.noExceptions_scalar.array _)] at conforms
    rw [asNode, Value.onItems, conforms_array_iff (Alternatives.noExceptions_scalar.array _)]
    obtain ⟨admitted, inside⟩ := conforms
    refine ⟨admitted.array _, ?_⟩
    rintro _ ⟨⟩ member held
    obtain ⟨original, listed, rfl⟩ := List.mem_map.mp held
    have before := inside _ rfl original listed
    cases original with
    | map entries => exact conforms_hoistStyleEntry allLoaders before
    | _ => exact before
  | _ => exact conforms

/-- The fields for the style types that can have rules. -/
def styleFields (plugins : Preprocessors) : List (String × Schema) :=
  Entries.assign [] (plugins.styleTypes.map fun styleType =>
    (styleType, (ofKind .array).withItems (styleEntry (plugins.loaderNamesFor styleType))))

theorem styles_node (plugins : Preprocessors) : styles plugins =
    .node ⟨[.object], [], [.bool false], none⟩ (styleFields plugins) (.reject unknownStyleType) [] none none none :=
  withFields_node

theorem eq_of_mem_styleFields {plugins : Preprocessors} {styleType : String} {field : Schema}
    (isDeclared : (styleType, field) ∈ styleFields plugins) :
    field = (ofKind .array).withItems (styleEntry (plugins.loaderNamesFor styleType)) := by
  rcases Entries.mem_assign_cases isDeclared with listed | none
  · obtain ⟨_, _, same⟩ := List.mem_map.mp listed
    cases same
    rfl
  · cases none

theorem mem_keys_styleFields {plugins : Preprocessors} {styleType : String} :
    styleType ∈ Entries.keys (styleFields plugins) ↔ styleType ∈ plugins.styleTypes := by
  rw [styleFields, Entries.mem_keys_assign, Entries.keys, List.map_map]
  simp

theorem conforms_hoistStyles {plugins : Preprocessors} {entries : Entries Value}
    (conforms : Conforms (styles plugins) (.map entries)) :
    Conforms (styles plugins) (.map (hoistStyles plugins.loaderNames entries)) := by
  rw [styles_node, conforms_map_iff (falseException_scalar.map _)] at conforms ⊢
  obtain ⟨admitted, known, _, declared, _⟩ := conforms
  rw [hoistStyles, Entries.keys_map]
  refine ⟨admitted.map _, known, Or.inl rfl, ?_, by simp⟩
  intro styleType field isDeclared child found notNull
  rw [Entries.get?_map] at found
  obtain ⟨rules, wasAt, rfl⟩ := Option.map_eq_some_iff.mp found
  have rulesNotNull : rules ≠ .null := by
    rintro rfl
    exact notNull rfl
  have before := declared styleType field isDeclared rules wasAt rulesNotNull
  rw [eq_of_mem_styleFields isDeclared] at before ⊢
  exact conforms_styleRules plugins.loaderNames before

theorem declares_rules (plugins : Preprocessors) :
    (userConfig plugins).Declares ["webpack", "rules"] ((ofKind .object).withValues rule) := by
  have inWebpack : (webpack plugins).Declares ["rules"] ((ofKind .object).withValues rule) :=
    declares_record rfl .here
  exact declares_record rfl inWebpack

theorem declares_styles (plugins : Preprocessors) :
    (userConfig plugins).Declares ["webpack", "styles"] (styles plugins) := by
  have inWebpack : (webpack plugins).Declares ["styles"] (styles plugins) := declares_record rfl .here
  exact declares_record rfl inWebpack

/-- Moving loader options to where the build tools look for them keeps a configuration to the schema
it was checked against. -/
theorem conforms_hoistConfig {plugins : Preprocessors} {config : Value}
    (conforms : Conforms (userConfig plugins) config) :
    Conforms (userConfig plugins) (hoistConfig plugins config) := by
  have rules := (declares_rules plugins).conforms_updateMap conforms fun _ => conforms_hoistRules
  exact (declares_styles plugins).conforms_updateMap rules fun _ => conforms_hoistStyles

end BuildConfig.Schema
