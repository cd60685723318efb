import BuildConfig.Proofs.Hoist.Lookup
import BuildConfig.Proofs.Value.AlikeEdits

namespace BuildConfig

open Value

section Tables

variable {as bs : Entries Value}

theorem alike_filter (alike : Alike (.map as) (.map bs)) (accepts : String → Bool) :
    Alike (.map (as.filter fun (key, _) => accepts key)) (.map (bs.filter fun (key, _) => accepts key)) := by
  obtain ⟨left, right, lookups⟩ := alike_map_iff.mp alike
  refine alike_map_iff.mpr ⟨left.filter _, right.filter _, fun key => ?_⟩
  rw [Entries.get?_filter as accepts, Entries.get?_filter bs accepts]
  split
  · exact lookups key
  · exact .none

theorem alike_mapValues (alike : Alike (.map as) (.map bs)) {change : Value → Value}
    (keeps : ∀ a b, Alike a b → Alike (change a) (change b)) :
    Alike (.map (as.map fun (key, value) => (key, change value)))
      (.map (bs.map fun (key, value) => (key, change value))) := by
  obtain ⟨left, right, lookups⟩ := alike_map_iff.mp alike
  refine alike_map_iff.mpr ⟨?_, ?_, fun key => ?_⟩
  · rwa [Entries.Distinct, Entries.keys_map]
  · rwa [Entries.Distinct, Entries.keys_map]
  · rw [Entries.get?_map, Entries.get?_map]
    exact rel_map (lookups key) keeps

theorem empty_iff_of_alike (alike : Alike (.map as) (.map bs)) : as = [] ↔ bs = [] := by
  obtain ⟨left, right, lookups⟩ := alike_map_iff.mp alike
  have size := (Entries.keys_perm_of_lookups left right fun key => isSome_of_rel (lookups key)).length_eq
  rw [length_keys, length_keys] at size
  rw [← List.length_eq_zero_iff, ← List.length_eq_zero_iff, size]

theorem alike_lastEntry {key : String} {xs ys : Entries Value} (alike : Alike (.map as) (.map bs))
    (missing : Entries.get? as key = none) (last : Alike (.map xs) (.map ys)) :
    Alike (.map (as ++ lastEntry key xs)) (.map (bs ++ lastEntry key ys)) := by
  have together := isSome_of_rel (alike.get? key)
  have missingOther : Entries.get? bs key = none := by simpa [missing] using together
  have empty := empty_iff_of_alike last
  unfold lastEntry
  by_cases none : xs = []
  · simpa [none, empty.mp none] using alike
  · simp only [List.isEmpty_iff, none, mt empty.mpr none, if_false]
    rw [← Entries.insert_of_missing missing, ← Entries.insert_of_missing missingOther]
    exact alike.insert last key

end Tables

theorem alike_hoistRule {as bs : Entries Value} (alike : Alike (.map as) (.map bs)) :
    Alike (.map (hoistRule as)) (.map (hoistRule bs)) := by
  have together : Entries.contains as "options" = Entries.contains bs "options" :=
    isSome_of_rel (alike.get? "options")
  cases present : Entries.contains as "options" with
  | true =>
    rw [hoistRule_of_options present, hoistRule_of_options (together ▸ present)]
    exact alike
  | false =>
    rw [hoistRule_of_no_options present, hoistRule_of_no_options (together ▸ present)]
    have missing : Entries.get? as "options" = none := by simpa [Entries.contains] using present
    refine alike_lastEntry (alike_filter alike fun key => ruleKeys.contains key) ?_
      (alike_filter alike fun key => !ruleKeys.contains key)
    rw [Entries.get?_filter as fun key => ruleKeys.contains key, missing, ite_self]

/-- What the loaders hold after the moved keys have been set, one look-up at a time. -/
theorem get?_setLoaders {moved : Entries Value} (distinct : Entries.Distinct moved) (loaders : Entries Value)
    (name : String) :
    Entries.get? (moved.foldl (fun loaders (key, options) => setLoaderOptions loaders key options) loaders) name =
      ((Entries.get? moved name).map fun options =>
        .map (Entries.insert ((Entries.get? loaders name).getD .empty).entries "options" options)).or
          (Entries.get? loaders name) := by
  induction moved generalizing loaders with
  | nil => rfl
  | cons entry rest ih =>
    obtain ⟨key, options⟩ := entry
    rw [List.foldl_cons, ih distinct.tail, Entries.get?]
    simp only [setLoaderOptions, Entries.get?_insert]
    by_cases same : key = name
    · subst name
      rw [distinct.get?_tail, if_pos rfl, if_pos rfl]
      rfl
    · rw [if_neg same, if_neg same]

theorem distinct_setLoaders {loaders : Entries Value} (distinct : Entries.Distinct loaders)
    (moved : Entries Value) :
    Entries.Distinct (moved.foldl (fun loaders (key, options) => setLoaderOptions loaders key options) loaders) :=
  List.foldlRecOn _ _ distinct fun _ before _ _ => before.insert _ _

theorem alike_gatheredLoaders (loaderNames : List String) {as bs : Entries Value}
    (alike : Alike (.map as) (.map bs)) :
    Alike (.map (gatheredLoaders loaderNames as)) (.map (gatheredLoaders loaderNames bs)) := by
  have declared := (alike_getD_empty (alike.get? "loaders")).entries
  have moved := alike_filter (alike_filter alike fun key => key != "loaders") fun key => loaderNames.contains key
  obtain ⟨distinctDeclared, distinctOther, declaredLookups⟩ := alike_map_iff.mp declared
  obtain ⟨distinctMoved, distinctOtherMoved, movedLookups⟩ := alike_map_iff.mp moved
  unfold gatheredLoaders
  refine alike_map_iff.mpr ⟨distinct_setLoaders distinctDeclared _, distinct_setLoaders distinctOther _, ?_⟩
  intro name
  rw [get?_setLoaders distinctMoved, get?_setLoaders distinctOtherMoved]
  refine rel_or (rel_map (movedLookups name) fun _ _ options => ?_) (declaredLookups name)
  exact (alike_getD_empty (declaredLookups name)).entries.insert options "options"

theorem alike_hoistStyleEntry (loaderNames : List String) {as bs : Entries Value}
    (alike : Alike (.map as) (.map bs)) :
    Alike (.map (hoistStyleEntry loaderNames as)) (.map (hoistStyleEntry loaderNames bs)) := by
  have others := alike_filter alike fun key => key != "loaders"
  rw [hoistStyleEntry_eq, hoistStyleEntry_eq]
  refine alike_lastEntry (alike_filter others fun key => !loaderNames.contains key) ?_
    (alike_gatheredLoaders loaderNames alike)
  rw [Entries.get?_filter _ fun key => !loaderNames.contains key, Entries.get?_filter as fun key => key != "loaders"]
  simp

section Changes

variable {a b : Value} {change : Entries Value → Entries Value}

theorem alike_onMap (alike : Alike a b)
    (keeps : ∀ as bs, Alike (.map as) (.map bs) → Alike (.map (change as)) (.map (change bs))) :
    Alike (a.onMap change) (b.onMap change) := by
  cases isMap : a.isMap with
  | true =>
    obtain ⟨as, rfl⟩ := isMap_iff.mp isMap
    obtain ⟨bs, rfl⟩ := isMap_iff.mp (alike.isMap ▸ isMap)
    exact keeps as bs alike
  | false =>
    rw [onMap_of_not_isMap isMap, onMap_of_not_isMap (alike.isMap ▸ isMap)]
    exact alike

theorem alike_onItems {change : Value → Value} (alike : Alike a b)
    (keeps : ∀ a b, Alike a b → Alike (change a) (change b)) : Alike (a.onItems change) (b.onItems change) := by
  cases isArray : a.isArray with
  | true =>
    obtain ⟨as, rfl⟩ := isArray_iff.mp isArray
    obtain ⟨bs, rfl⟩ := isArray_iff.mp (alike.isArray ▸ isArray)
    rw [Value.onItems, Value.onItems, alike_array_iff, List.forall₂_map_left_iff, List.forall₂_map_right_iff]
    exact (alike_array_iff.mp alike).imp keeps
  | false =>
    rw [onItems_of_not_isArray isArray, onItems_of_not_isArray (alike.isArray ▸ isArray)]
    exact alike

theorem alike_updateMap (alike : Alike a b) (path : List String)
    (keeps : ∀ as bs, Alike (.map as) (.map bs) → Alike (.map (change as)) (.map (change bs))) :
    Alike (a.updateMap path change) (b.updateMap path change) := by
  have found := alike.getPath? path
  by_cases holdsMap : ∃ entries, a.getPath? path = some (.map entries)
  · obtain ⟨as, atA⟩ := holdsMap
    rw [atA] at found
    obtain ⟨right, atB, both⟩ := exists_of_rel_some found
    obtain ⟨bs, rfl⟩ := isMap_iff.mp both.isMap.symm
    rw [updateMap_of_map change atA, updateMap_of_map change atB]
    exact alike.insertPath (keeps as bs both) path
  · rw [updateMap_of_no_map change (not_exists.mp holdsMap), updateMap_of_no_map change fun bs atB => ?_]
    · exact alike
    · rw [atB] at found
      obtain ⟨left, atA, both⟩ := exists_of_some_rel found
      obtain ⟨as, rfl⟩ := isMap_iff.mp both.isMap
      exact holdsMap ⟨as, atA⟩

end Changes

/-- Where the options of loaders end up does not depend on the order of keys. -/
theorem alike_hoistConfig (plugins : Preprocessors) {a b : Value} (alike : Alike a b) :
    Alike (hoistConfig plugins a) (hoistConfig plugins b) := by
  refine alike_updateMap (alike_updateMap alike _ ?_) _ ?_
  · intro as bs rules
    exact alike_mapValues rules fun _ _ rule => alike_onMap rule fun _ _ entries => alike_hoistRule entries
  · intro as bs styles
    refine alike_mapValues styles fun _ _ rules => alike_onItems rules fun _ _ rule => ?_
    exact alike_onMap rule fun _ _ entries => alike_hoistStyleEntry plugins.loaderNames entries

theorem Value.DistinctKeys.hoistConfig (plugins : Preprocessors) {config : Value}
    (distinct : config.DistinctKeys) : (hoistConfig plugins config).DistinctKeys :=
  alike_self_iff.mp (alike_hoistConfig plugins (alike_self distinct))

end BuildConfig
