import BuildConfig.Hoist
import BuildConfig.Proofs.Value.Trees

namespace BuildConfig

theorem updateMap_of_map {config : Value} {path : List String} (change : Entries Value → Entries Value)
    {entries : Entries Value} (found : config.getPath? path = some (.map entries)) :
    config.updateMap path change = config.insertPath path (.map (change entries)) := by
  rw [Value.updateMap, found]

theorem updateMap_of_no_map {config : Value} {path : List String} (change : Entries Value → Entries Value)
    (noMap : ∀ entries, config.getPath? path ≠ some (.map entries)) : config.updateMap path change = config := by
  unfold Value.updateMap
  split
  · rename_i entries found
    exact absurd found (noMap entries)
  · rfl

theorem Value.onMap_of_not_isMap {value : Value} (notMap : value.isMap = false)
    (change : Entries Value → Entries Value) : value.onMap change = value := by
  cases value <;> first | rfl | cases notMap

theorem Value.onItems_of_not_isArray {value : Value} (notArray : value.isArray = false) (change : Value → Value) :
    value.onItems change = value := by
  cases value <;> first | rfl | cases notArray

/-- Two values that a change further inside cannot tell apart by their keys either: these have one order. -/
def Value.SameKeys (a b : Value) : Prop :=
  SameOutside a b ∧ Entries.keys b.entries = Entries.keys a.entries

theorem Value.SameKeys.refl (value : Value) : SameKeys value value :=
  ⟨.refl value, rfl⟩

theorem Value.SameKeys.trans {a b c : Value} (first : SameKeys a b) (second : SameKeys b c) : SameKeys a c :=
  ⟨first.1.trans second.1, second.2.trans first.2⟩

/-- A change of what is at a path leaves everything alone that is neither there nor further inside, and all keys on the
way. -/
theorem sameKeys_insertPath {config old : Value} {path place : List String}
    (held : config.getPath? path = some old) (outside : ¬path <+: place) (new : Value) :
    Option.Rel Value.SameKeys (config.getPath? place) ((config.insertPath path new).getPath? place) := by
  induction path generalizing config place with
  | nil => exact absurd List.nil_prefix outside
  | cons key rest ih =>
    rw [Value.getPath?_cons] at held
    obtain ⟨child, atKey, below⟩ := Option.bind_eq_some_iff.mp held
    rw [Value.insertPath, atKey, Option.getD_some]
    cases place with
    | nil =>
      have present : key ∈ Entries.keys config.entries := Entries.mem_keys_iff.mpr ⟨child, atKey⟩
      refine .some ⟨Or.inr ⟨Value.isMap_of_get?_eq_some atKey, rfl⟩, ?_⟩
      rw [Value.entries_map, Entries.keys_insert, if_pos present]
    | cons name more =>
      rw [Value.getPath?_cons, Value.getPath?_cons, Value.get?_map, Entries.get?_insert]
      by_cases same : key = name
      · subst name
        have deeper : ¬rest <+: more := fun inside => outside (List.cons_prefix_cons.mpr ⟨rfl, inside⟩)
        rw [atKey, if_pos rfl]
        exact ih below deeper
      · rw [if_neg same]
        exact rel_self Value.SameKeys.refl _

theorem sameKeys_updateMap (config : Value) {path place : List String} (outside : ¬path <+: place)
    (change : Entries Value → Entries Value) :
    Option.Rel Value.SameKeys (config.getPath? place) ((config.updateMap path change).getPath? place) := by
  unfold Value.updateMap
  split
  · rename_i entries found
    exact sameKeys_insertPath found outside _
  · exact rel_self Value.SameKeys.refl _

theorem sameKeys_hoistConfig (plugins : Preprocessors) (config : Value) {place : List String}
    (outsideRules : ¬["webpack", "rules"] <+: place) (outsideStyles : ¬["webpack", "styles"] <+: place) :
    Option.Rel Value.SameKeys (config.getPath? place) ((hoistConfig plugins config).getPath? place) := by
  have rules := sameKeys_updateMap config outsideRules hoistRules
  have styles := sameKeys_updateMap (config.updateMap ["webpack", "rules"] hoistRules) outsideStyles
    (hoistStyles plugins.loaderNames)
  exact rel_trans (fun _ _ _ => Value.SameKeys.trans) rules styles

/-- Moving loader options changes nothing but rules and styles. -/
theorem sameOutside_hoistConfig (plugins : Preprocessors) (config : Value) {place : List String}
    (outsideRules : ¬["webpack", "rules"] <+: place) (outsideStyles : ¬["webpack", "styles"] <+: place) :
    Option.Rel Value.SameOutside (config.getPath? place) ((hoistConfig plugins config).getPath? place) :=
  rel_imp (fun _ _ same => same.1) (sameKeys_hoistConfig plugins config outsideRules outsideStyles)

/-- The loader options that a module rule holds beside its own keys. -/
def ruleOptions (rule : Entries Value) : Entries Value :=
  rule.filter fun (key, _) => !ruleKeys.contains key

/-- A last entry that is left out when there is nothing in it. -/
def lastEntry (key : String) (entries : Entries Value) : Entries Value :=
  if entries.isEmpty then [] else [(key, .map entries)]

theorem get?_lastEntry (key : String) (entries : Entries Value) (name : String) :
    Entries.get? (lastEntry key entries) name =
      if key = name ∧ entries ≠ [] then some (.map entries) else none := by
  unfold lastEntry
  cases entries with
  | nil => simp [Entries.get?]
  | cons => by_cases same : key = name <;> simp [Entries.get?, same]

/-- What a last entry holds, which is nothing if it has been left out. -/
theorem entries_get?_lastEntry (key : String) (entries : Entries Value) :
    ((Entries.get? (lastEntry key entries) key).getD .empty).entries = entries := by
  rw [get?_lastEntry]
  by_cases none : entries = []
  · rw [none, if_neg (by simp)]
    rfl
  · rw [if_pos ⟨rfl, none⟩]
    rfl

theorem lastEntry_of_ne_nil (key : String) {entries : Entries Value} (some : entries ≠ []) :
    lastEntry key entries = [(key, .map entries)] := by
  rw [lastEntry, if_neg (by simpa using some)]

theorem filter_lastEntry (key : String) (entries : Entries Value) :
    (lastEntry key entries).filter (fun (name, _) => name != key) = [] := by
  unfold lastEntry
  split <;> simp

theorem hoistRule_of_options {rule : Entries Value} (present : Entries.contains rule "options" = true) :
    hoistRule rule = rule := by
  rw [hoistRule, if_pos present]

theorem hoistRule_of_no_options {rule : Entries Value} (missing : Entries.contains rule "options" = false) :
    hoistRule rule =
      (rule.filter fun (key, _) => ruleKeys.contains key) ++ lastEntry "options" (ruleOptions rule) := by
  rw [hoistRule, missing, if_neg Bool.false_ne_true, lastEntry, ruleOptions]
  simp only
  split
  · rw [List.append_nil]
  · rfl

/-- Look-ups in a rule whose options have been gathered. -/
theorem get?_hoistRule {rule : Entries Value} (missing : Entries.contains rule "options" = false)
    (name : String) :
    Entries.get? (hoistRule rule) name =
      if name = "options" then (if ruleOptions rule ≠ [] then some (.map (ruleOptions rule)) else none)
      else if ruleKeys.contains name then Entries.get? rule name else none := by
  rw [hoistRule_of_no_options missing, Entries.get?_append, Entries.get?_filter, get?_lastEntry]
  by_cases options : name = "options"
  · subst name
    have absent : Entries.get? rule "options" = none := by simpa [Entries.contains] using missing
    simp [absent]
  · simp [options, Ne.symm options]

/-- The loaders of a style rule once its loader keys have been moved there. -/
def gatheredLoaders (loaderNames : List String) (entry : Entries Value) : Entries Value :=
  ((entry.filter fun (key, _) => key != "loaders").filter fun (key, _) => loaderNames.contains key).foldl
    (fun loaders (key, options) => setLoaderOptions loaders key options)
    ((Entries.get? entry "loaders").getD Value.empty).entries

theorem hoistStyleEntry_eq (loaderNames : List String) (entry : Entries Value) :
    hoistStyleEntry loaderNames entry =
      ((entry.filter fun (key, _) => key != "loaders").filter fun (key, _) => !loaderNames.contains key)
        ++ lastEntry "loaders" (gatheredLoaders loaderNames entry) := by
  rw [hoistStyleEntry, lastEntry, gatheredLoaders]
  simp only
  split
  · rw [List.append_nil]
  · rfl

/-- Look-ups in a style rule whose loader keys have been moved. -/
theorem get?_hoistStyleEntry (loaderNames : List String) (entry : Entries Value) (name : String) :
    Entries.get? (hoistStyleEntry loaderNames entry) name =
      if name = "loaders" then
        (if gatheredLoaders loaderNames entry ≠ [] then some (.map (gatheredLoaders loaderNames entry)) else none)
      else if loaderNames.contains name then none else Entries.get? entry name := by
  rw [hoistStyleEntry_eq, Entries.get?_append, Entries.get?_filter _ fun key => !loaderNames.contains key,
    Entries.get?_filter _ fun key => key != "loaders", get?_lastEntry]
  by_cases loaders : name = "loaders"
  · subst name
    simp
  · simp [loaders, Ne.symm loaders]

theorem get?_hoistStyleEntry_loaders (loaderNames : List String) (entry : Entries Value) :
    Entries.get? (hoistStyleEntry loaderNames entry) "loaders" =
      Entries.get? (lastEntry "loaders" (gatheredLoaders loaderNames entry)) "loaders" := by
  rw [get?_hoistStyleEntry, get?_lastEntry]
  simp

/-- Whatever is set as the options of a loader, what the loaders hold are maps if they were before. -/
theorem isMap_of_mem_gatheredLoaders {loaderNames : List String} {entry : Entries Value}
    (declared : ∀ key value,
      (key, value) ∈ ((Entries.get? entry "loaders").getD Value.empty).entries → value.isMap = true)
    {key : String} {value : Value} (held : (key, value) ∈ gatheredLoaders loaderNames entry) :
    value.isMap = true := by
  unfold gatheredLoaders at held
  generalize ((Entries.get? entry "loaders").getD Value.empty).entries = loaders at declared held
  generalize (entry.filter fun (key, _) => key != "loaders").filter
    (fun (key, _) => loaderNames.contains key) = moved at held
  induction moved generalizing loaders with
  | nil => exact declared key value held
  | cons first rest ih =>
    refine ih _ (fun name loader inserted => ?_) held
    rcases Entries.mem_insert_cases inserted with here | older
    · cases here
      rfl
    · exact declared name loader older

end BuildConfig
