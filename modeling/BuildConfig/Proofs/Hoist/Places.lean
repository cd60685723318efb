import BuildConfig.Proofs.Hoist.Lookup
import BuildConfig.Proofs.Value.Edits

namespace BuildConfig

theorem getPath?_updateMap_of_apart {path place : List String} (apart : Apart path place) (config : Value)
    (change : Entries Value → Entries Value) :
    (config.updateMap path change).getPath? place = config.getPath? place := by
  unfold Value.updateMap
  split
  · exact Value.getPath?_insertPath_of_apart apart _ _
  · rfl

/-- Moving loader options touches nothing that lies apart from rules and styles. -/
theorem getPath?_hoistConfig_of_apart {place : List String} (fromRules : Apart ["webpack", "rules"] place)
    (fromStyles : Apart ["webpack", "styles"] place) (plugins : Preprocessors) (config : Value) :
    (hoistConfig plugins config).getPath? place = config.getPath? place := by
  rw [hoistConfig, getPath?_updateMap_of_apart fromStyles, getPath?_updateMap_of_apart fromRules]

theorem getPath?_updateMap_self (config : Value) (path : List String) (change : Entries Value → Entries Value) :
    (config.updateMap path change).getPath? path = (config.getPath? path).map (Value.onMap change) := by
  by_cases holdsMap : ∃ entries, config.getPath? path = some (.map entries)
  · obtain ⟨entries, held⟩ := holdsMap
    rw [updateMap_of_map change held, Value.getPath?_insertPath_self, held]
    rfl
  · rw [updateMap_of_no_map change (not_exists.mp holdsMap)]
    cases held : config.getPath? path with
    | none => rfl
    | some value => cases value <;> first | rfl | exact (holdsMap ⟨_, held⟩).elim

/-- Rules are changed by the gathering of their options alone. -/
theorem getPath?_hoistConfig_rules (plugins : Preprocessors) (config : Value) :
    (hoistConfig plugins config).getPath? ["webpack", "rules"] =
      (config.getPath? ["webpack", "rules"]).map (Value.onMap hoistRules) := by
  rw [hoistConfig, getPath?_updateMap_of_apart (by decide), getPath?_updateMap_self]

/-- Styles are changed by the moving of their loader options alone. -/
theorem getPath?_hoistConfig_styles (plugins : Preprocessors) (config : Value) :
    (hoistConfig plugins config).getPath? ["webpack", "styles"] =
      (config.getPath? ["webpack", "styles"]).map (Value.onMap (hoistStyles plugins.loaderNames)) := by
  rw [hoistConfig, getPath?_updateMap_self, getPath?_updateMap_of_apart (by decide)]

/-- A change of each value of a map is seen under each key. -/
theorem Value.get?_onMap_map (change : Value → Value) (value : Value) (key : String) :
    (value.onMap fun entries => entries.map fun (name, child) => (name, change child)).get? key =
      (value.get? key).map change := by
  cases value <;> first | rfl | exact Entries.get?_map _ change key

theorem getPath?_hoistConfig_rule (plugins : Preprocessors) (config : Value) (name : String) :
    (hoistConfig plugins config).getPath? ["webpack", "rules", name] =
      (config.getPath? ["webpack", "rules", name]).map (Value.onMap hoistRule) := by
  have inRules (tree : Value) : tree.getPath? ["webpack", "rules", name] =
      (tree.getPath? ["webpack", "rules"]).bind fun rules => rules.get? name :=
    tree.getPath?_concat ["webpack", "rules"] name
  rw [inRules, inRules, getPath?_hoistConfig_rules]
  cases config.getPath? ["webpack", "rules"] with
  | none => rfl
  | some rules => exact Value.get?_onMap_map _ rules name

theorem getPath?_hoistConfig_styleType (plugins : Preprocessors) (config : Value) (styleType : String) :
    (hoistConfig plugins config).getPath? ["webpack", "styles", styleType] =
      (config.getPath? ["webpack", "styles", styleType]).map
        (Value.onItems (Value.onMap (hoistStyleEntry plugins.loaderNames))) := by
  have inStyles (tree : Value) : tree.getPath? ["webpack", "styles", styleType] =
      (tree.getPath? ["webpack", "styles"]).bind fun styles => styles.get? styleType :=
    tree.getPath?_concat ["webpack", "styles"] styleType
  rw [inStyles, inStyles, getPath?_hoistConfig_styles]
  cases config.getPath? ["webpack", "styles"] with
  | none => rfl
  | some styles => exact Value.get?_onMap_map _ styles styleType

end BuildConfig
