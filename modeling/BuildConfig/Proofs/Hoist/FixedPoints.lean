import BuildConfig.Proofs.Hoist.Places
import Mathlib.Data.List.Forall2

namespace BuildConfig

section Rules

variable {rule : Entries Value}

/-- A rule with nothing to gather is as it should be. -/
theorem hoistRule_of_no_more (none : ruleOptions rule = []) : hoistRule rule = rule := by
  cases present : Entries.contains rule "options" with
  | true => exact hoistRule_of_options present
  | false =>
    have own : ∀ entry ∈ rule, ruleKeys.contains entry.1 = true := by
      intro entry listed
      have notOption := List.filter_eq_nil_iff.mp none entry listed
      simpa using notOption
    rw [hoistRule_of_no_options present, none, List.filter_eq_self.mpr own]
    exact List.append_nil rule

theorem hoistRule_idempotent (rule : Entries Value) : hoistRule (hoistRule rule) = hoistRule rule := by
  cases present : Entries.contains rule "options" with
  | true => rw [hoistRule_of_options present, hoistRule_of_options present]
  | false =>
    by_cases none : ruleOptions rule = []
    · rw [hoistRule_of_no_more none, hoistRule_of_no_more none]
    · -- what is gathered the first time stands where the second time looks first
      have options : Entries.get? (hoistRule rule) "options" = some (.map (ruleOptions rule)) := by
        rw [get?_hoistRule present, if_pos rfl, if_pos none]
      exact hoistRule_of_options (by rw [Entries.contains, options]; rfl)

end Rules

section StyleEntries

variable (loaderNames : List String) (entry : Entries Value)

/-- What a style rule keeps beside its loaders, it keeps for good. -/
theorem filter_hoistStyleEntry :
    ((hoistStyleEntry loaderNames entry).filter fun (key, _) => key != "loaders") =
      (entry.filter fun (key, _) => key != "loaders").filter fun (key, _) => !loaderNames.contains key := by
  rw [hoistStyleEntry_eq, List.filter_append, filter_lastEntry, List.append_nil]
  exact List.filter_eq_self.mpr fun _ listed => (List.mem_filter.mp (List.mem_filter.mp listed).1).2

theorem gatheredLoaders_hoistStyleEntry :
    gatheredLoaders loaderNames (hoistStyleEntry loaderNames entry) = gatheredLoaders loaderNames entry := by
  have noneMoved (kept : Entries Value) : (kept.filter fun (key, _) => !loaderNames.contains key).filter
      (fun (key, _) => loaderNames.contains key) = [] := by
    simp [List.filter_filter]
  rw [gatheredLoaders, filter_hoistStyleEntry, noneMoved, List.foldl_nil, get?_hoistStyleEntry_loaders,
    entries_get?_lastEntry]

theorem hoistStyleEntry_idempotent :
    hoistStyleEntry loaderNames (hoistStyleEntry loaderNames entry) = hoistStyleEntry loaderNames entry := by
  rw [hoistStyleEntry_eq, filter_hoistStyleEntry, gatheredLoaders_hoistStyleEntry, List.filter_filter]
  simp only [Bool.and_self]
  rw [← hoistStyleEntry_eq]

end StyleEntries

section Changes

variable {change : Entries Value → Entries Value}

theorem Value.onMap_idempotent (idempotent : ∀ entries, change (change entries) = change entries) (value : Value) :
    (value.onMap change).onMap change = value.onMap change := by
  cases value <;> simp only [onMap, idempotent]

theorem Value.onItems_idempotent {change : Value → Value} (idempotent : ∀ item, change (change item) = change item)
    (value : Value) : (value.onItems change).onItems change = value.onItems change := by
  cases value <;> simp only [onItems, List.map_map, Function.comp_def, idempotent]

/-- A map that has been changed already is not changed again. -/
theorem fixed_of_map_onMap (idempotent : ∀ entries, change (change entries) = change entries) {found : Option Value}
    {entries : Entries Value} (changed : found.map (Value.onMap change) = some (.map entries)) :
    change entries = entries := by
  obtain ⟨value, _, same⟩ := Option.map_eq_some_iff.mp changed
  cases value <;> cases same
  exact idempotent _

theorem updateMap_eq_self {config : Value} {path : List String}
    (fixed : ∀ entries, config.getPath? path = some (.map entries) → change entries = entries) :
    config.updateMap path change = config := by
  by_cases holdsMap : ∃ entries, config.getPath? path = some (.map entries)
  · obtain ⟨entries, held⟩ := holdsMap
    rw [updateMap_of_map change held, fixed entries held, Value.insertPath_of_getPath? held]
  · exact updateMap_of_no_map change (not_exists.mp holdsMap)

end Changes

theorem hoistRules_idempotent (rules : Entries Value) : hoistRules (hoistRules rules) = hoistRules rules := by
  rw [hoistRules, hoistRules, List.map_map]
  refine List.map_congr_left fun (name, rule) _ => congrArg (name, ·) ?_
  exact Value.onMap_idempotent hoistRule_idempotent rule

theorem hoistStyles_idempotent (loaderNames : List String) (styles : Entries Value) :
    hoistStyles loaderNames (hoistStyles loaderNames styles) = hoistStyles loaderNames styles := by
  rw [hoistStyles, hoistStyles, List.map_map]
  refine List.map_congr_left fun (styleType, rules) _ => congrArg (styleType, ·) ?_
  exact Value.onItems_idempotent (Value.onMap_idempotent (hoistStyleEntry_idempotent loaderNames)) rules

theorem hoistConfig_idempotent (plugins : Preprocessors) (config : Value) :
    hoistConfig plugins (hoistConfig plugins config) = hoistConfig plugins config := by
  have rules : (hoistConfig plugins config).updateMap ["webpack", "rules"] hoistRules = hoistConfig plugins config := by
    refine updateMap_eq_self fun entries held => ?_
    rw [getPath?_hoistConfig_rules] at held
    exact fixed_of_map_onMap hoistRules_idempotent held
  rw [hoistConfig, rules]
  refine updateMap_eq_self fun entries held => ?_
  rw [getPath?_hoistConfig_styles] at held
  exact fixed_of_map_onMap (hoistStyles_idempotent plugins.loaderNames) held

section Tables

/-- A change that keeps the keys of a map in their order keeps those of whatever it finds. -/
theorem sameKeys_onMap {change : Entries Value → Entries Value}
    (keeps : ∀ entries, Entries.keys (change entries) = Entries.keys entries) (found : Option Value) :
    Option.Rel Value.SameKeys found (found.map (Value.onMap change)) := by
  cases found with
  | none => exact .none
  | some value =>
    refine .some ?_
    cases value with
    | map entries => exact ⟨Or.inr ⟨rfl, rfl⟩, keeps entries⟩
    | _ => exact .refl _

/-- The maps that lead to rules and styles, and those that hold them. -/
def hoistedTables : List (List String) :=
  [[], ["webpack"], ["webpack", "rules"], ["webpack", "styles"]]

theorem sameKeys_hoistedTables (plugins : Preprocessors) (config : Value) {table : List String}
    (listed : table ∈ hoistedTables) :
    Option.Rel Value.SameKeys (config.getPath? table) ((hoistConfig plugins config).getPath? table) := by
  simp only [hoistedTables, List.mem_cons, List.not_mem_nil, or_false] at listed
  rcases listed with rfl | rfl | rfl | rfl
  · exact sameKeys_hoistConfig plugins config (by decide) (by decide)
  · exact sameKeys_hoistConfig plugins config (by decide) (by decide)
  · rw [getPath?_hoistConfig_rules]
    exact sameKeys_onMap (fun rules => Entries.keys_map rules _) _
  · rw [getPath?_hoistConfig_styles]
    exact sameKeys_onMap (fun styles => Entries.keys_map styles _) _

end Tables

/-- Moving loader options a second time changes nothing, not even the order of keys. Nor does the first time, apart
from rules and styles: the keys on the way to them and their own keep their order, and a rule, the rules for a style
type and any one of these stay as they are where they are of another kind than is asked for. -/
theorem hoisting_settles_at_once (plugins : Preprocessors) (config : Value) :
    let hoisted := hoistConfig plugins config
    hoistConfig plugins hoisted = hoisted ∧
    (∀ place, Apart ["webpack", "rules"] place → Apart ["webpack", "styles"] place →
      hoisted.getPath? place = config.getPath? place) ∧
    (∀ table ∈ hoistedTables, Option.Rel Value.SameKeys (config.getPath? table) (hoisted.getPath? table)) ∧
    (∀ name rule, config.getPath? ["webpack", "rules", name] = some rule → rule.isMap = false →
      hoisted.getPath? ["webpack", "rules", name] = some rule) ∧
    (∀ styleType rules, config.getPath? ["webpack", "styles", styleType] = some rules → rules.isArray = false →
      hoisted.getPath? ["webpack", "styles", styleType] = some rules) ∧
    ∀ styleType rules, config.getPath? ["webpack", "styles", styleType] = some (.array rules) →
      ∃ others, hoisted.getPath? ["webpack", "styles", styleType] = some (.array others) ∧
        List.Forall₂ (fun rule other => rule.isMap = false → other = rule) rules others := by
  refine ⟨hoistConfig_idempotent plugins config, fun place fromRules fromStyles => ?elsewhere,
    fun table => sameKeys_hoistedTables plugins config, fun name rule held notMap => ?rule,
    fun styleType rules held notArray => ?type, fun styleType rules held => ?styleRules⟩
  case elsewhere => exact getPath?_hoistConfig_of_apart fromRules fromStyles plugins config
  case rule => rw [getPath?_hoistConfig_rule, held, Option.map_some, Value.onMap_of_not_isMap notMap]
  case type => rw [getPath?_hoistConfig_styleType, held, Option.map_some, Value.onItems_of_not_isArray notArray]
  case styleRules =>
    refine ⟨_, by rw [getPath?_hoistConfig_styleType, held]; rfl, ?_⟩
    rw [List.forall₂_map_right_iff, List.forall₂_same]
    exact fun rule _ notMap => Value.onMap_of_not_isMap notMap _

/-- Loaders named like keys of rules, rules with and without options, and values of kinds that are not asked for. -/
theorem hoisting_settles_at_once_named_alike :
    let plugins : Preprocessors := ⟨[("loaders", .empty), ("include", .empty), ("options", .empty)]⟩
    let styleRules : List Value :=
      [.string "vendor", .map [("include", .empty), ("loaders", .null), ("css", .empty)], .map [("loaders", .empty)]]
    let config : Value := .map [("webpack", .map
      [("rules", .map [("svg", .bool false), ("png", .map [("limit", .ofInt 10), ("loader", .string "url")])]),
        ("debug", .bool true), ("styles", .map [("sass", .null), ("css", .array styleRules)])])]
    let hoisted := hoistConfig plugins config
    hoistConfig plugins hoisted = hoisted ∧
      hoisted.getPath? ["webpack", "debug"] = some (.bool true) ∧
      hoisted.getPath? ["webpack", "rules", "svg"] = some (.bool false) ∧
      hoisted.getPath? ["webpack", "styles", "sass"] = some .null ∧
      ∃ first others, hoisted.getPath? ["webpack", "styles", "css"] = some (.array (first :: others)) ∧
        first = .string "vendor" := by
  intro plugins styleRules config hoisted
  obtain ⟨twice, elsewhere, _, rules, styleTypes, entries⟩ := hoisting_settles_at_once plugins config
  refine ⟨twice, elsewhere _ (by decide) (by decide), rules "svg" _ rfl rfl, styleTypes "sass" _ rfl rfl, ?_⟩
  obtain ⟨all, atCss, kept⟩ := entries "css" styleRules rfl
  obtain ⟨first, others, keptFirst, _, rfl⟩ := List.forall₂_cons_left_iff.mp kept
  exact ⟨first, others, atCss, keptFirst rfl⟩

end BuildConfig
