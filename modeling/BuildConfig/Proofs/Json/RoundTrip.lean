import BuildConfig.Proofs.Json.Patterns

namespace BuildConfig

namespace Value

variable {compiles : String → Bool}

theorem toJsonItems_eq (items : List Value) : toJsonItems items = items.map toJson := by
  induction items with
  | nil => rfl
  | cons item rest ih => rw [toJsonItems, List.map_cons, ih]

theorem toJsonEntries_eq (entries : Entries Value) :
    toJsonEntries entries = entries.map fun (key, value) => (key, value.toJson) := by
  induction entries with
  | nil => rfl
  | cons entry rest ih => rw [toJsonEntries, List.map_cons, ih]

theorem toJson_array (items : List Value) : (Value.array items).toJson = .array (items.map toJson) := by
  rw [toJson, toJsonItems_eq]

theorem toJson_map (entries : Entries Value) :
    (Value.map entries).toJson = .object (entries.map fun (key, value) => (key, value.toJson)) := by
  rw [toJson, toJsonEntries_eq]

/-- A tree that JSON can say: there is no pattern in it, no function, and no map that is read as a pattern. -/
inductive Expressible : Value → Prop
  | null : Expressible .null
  | bool {value : Bool} : Expressible (.bool value)
  | number {value : Number} : Expressible (.number value)
  | string {text : String} : Expressible (.string text)
  | array {items : List Value} (inside : ∀ item ∈ items, Expressible item) : Expressible (.array items)
  | map {entries : Entries Value} (noPattern : ∀ source, entries ≠ [(patternKey, .string source)])
      (inside : ∀ key value, (key, value) ∈ entries → Expressible value) : Expressible (.map entries)

/-- Patterns and functions are said as text, so that a text alone does not tell what was said. -/
theorem Expressible.eq_string {value : Value} {text : String} (expressible : value.Expressible)
    (said : value.toJson = .string text) : value = .string text := by
  cases expressible with
  | null | bool | number => cases said
  | string =>
    cases said
    rfl
  | array =>
    rw [toJson_array] at said
    cases said
  | map =>
    rw [toJson_map] at said
    cases said

theorem Expressible.patternSource?_eq_none {entries : Entries Value} (expressible : (Value.map entries).Expressible) :
    Json.patternSource? (entries.map fun (key, value) => (key, value.toJson)) = none := by
  cases expressible with
  | map noPattern inside =>
    cases found : Json.patternSource? (entries.map fun (key, value) => (key, value.toJson)) with
    | none => rfl
    | some source =>
      have said := Json.patternSource?_eq_some_iff.mp found
      obtain ⟨⟨key, value⟩, only, same⟩ := List.map_eq_singleton_iff.mp said
      obtain ⟨rfl, saidText⟩ := Prod.mk.inj same
      subst only
      have isText := (inside _ value (List.mem_singleton_self _)).eq_string saidText
      exact absurd (by rw [isText]) (noPattern source)

theorem ofJson_toJson {value : Value} (expressible : value.Expressible) : ofJson compiles value.toJson = .ok value := by
  induction expressible with
  | null | bool | number | string => rfl
  | array _ ih =>
    rw [toJson_array, ofJson_array, mapM_map_eq_ok ih]
    rfl
  | map noPattern inside ih =>
    rw [toJson_map, ofJson_object (Expressible.map noPattern inside).patternSource?_eq_none,
      Entries.makeEach_map_eq_ok ih]
    rfl

theorem exists_toJson_eq {document : Json} (free : document.patternSources = []) :
    ∃ value, ofJson compiles document = .ok value ∧ value.toJson = document := by
  induction document using Json.documentInduction with
  | null => exact ⟨.null, rfl, rfl⟩
  | bool value => exact ⟨.bool value, rfl, rfl⟩
  | number value => exact ⟨.number value, rfl, rfl⟩
  | string text => exact ⟨.string text, rfl, rfl⟩
  | array items ih =>
    rw [Json.patternSources_array, List.flatMap_eq_nil_iff] at free
    obtain ⟨values, made, same⟩ := exists_mapM_eq_ok fun item held => ih item held (free item held)
    exact ⟨.array values, by rw [ofJson_array, made]; rfl, by rw [toJson_array, same]⟩
  | object members ih =>
    cases found : Json.patternSource? members with
    | some source =>
      obtain rfl := Json.patternSource?_eq_some_iff.mp found
      rw [Json.patternSources_pattern] at free
      cases free
    | none =>
      rw [Json.patternSources_object found, List.flatMap_eq_nil_iff] at free
      obtain ⟨entries, made, same⟩ := Entries.exists_makeEach_eq_ok fun name member held =>
        ih name member held (free (name, member) held)
      exact ⟨.map entries, by rw [ofJson_object found, made]; rfl, by rw [toJson_map, same]⟩

end Value

/-- What becomes of the objects of a document that stand for regular expressions. -/
structure PatternsRead (compiles : String → Bool) (document : Json) : Prop where
  sources : document.DistinctNames → ∀ source, source ∈ document.patternSources ↔
    ∃ steps, document.walk? steps = some (.object (Json.patternMembers source))
  fails : (∃ fault, Value.ofJson compiles document = .error fault) ↔
    ∃ source ∈ document.patternSources, compiles source = false
  first : ∀ fault, Value.ofJson compiles document = .error fault →
    ∃ before source after, document.patternSources = before ++ source :: after ∧
      (∀ earlier ∈ before, compiles earlier = true) ∧ compiles source = false ∧ fault = .pattern source
  places : ∀ value, Value.ofJson compiles document = .ok value → ∀ steps source,
    value.walk? steps = some (.pattern source) ↔
      document.walk? steps = some (.object (Json.patternMembers source))

theorem patternsRead (compiles : String → Bool) (document : Json) : PatternsRead compiles document where
  sources := fun distinct _ => Json.mem_patternSources_iff distinct
  fails := by
    simp only [← fault?_eq_some_iff, Value.fault?_ofJson, ← Option.isSome_iff_exists, Option.isSome_map,
      List.find?_isSome, Bool.not_eq_true']
  first := by
    intro fault fails
    rw [← fault?_eq_some_iff, Value.fault?_ofJson] at fails
    obtain ⟨source, found, rfl⟩ := Option.map_eq_some_iff.mp fails
    obtain ⟨invalid, before, after, listed, earlier⟩ := List.find?_eq_some_iff_append.mp found
    exact ⟨before, source, after, listed, fun other held => by simpa using earlier other held,
      by simpa using invalid, rfl⟩
  places := fun _ made steps source => Value.walk?_ofJson_eq_pattern_iff made steps source

/-- Trees and documents turn into each other without a loss, but for patterns and functions: a pattern is read exactly
where the document has an object for it. Which sources compile makes no difference to that. -/
theorem json_inverse_away_from_patterns (compiles : String → Bool) :
    (∀ value : Value, value.Expressible → Value.ofJson compiles value.toJson = .ok value) ∧
    (∀ document : Json, document.patternSources = [] →
      ∃ value, Value.ofJson compiles document = .ok value ∧ value.toJson = document) ∧
    ∀ document : Json, PatternsRead compiles document :=
  ⟨fun _ => Value.ofJson_toJson, fun _ => Value.exists_toJson_eq, patternsRead compiles⟩

/-- A tree in which the key of patterns stands for something else, a pattern inside an object, and two faulty sources
of which the first counts. -/
theorem json_inverse_away_from_patterns_svg :
    let compiles : String → Bool := fun source => source == "a"
    let plain : Value := .map [("$regex", .array [.string "a"]), ("note", .string "/a/")]
    let rule : Json := .object [("test", .object (Json.patternMembers "a"))]
    let faulty : Json := .array (["a", "(", "["].map fun source => .object (Json.patternMembers source))
    (plain.Expressible ∧ Value.ofJson compiles plain.toJson = .ok plain) ∧
    (plain.toJson.patternSources = [] ∧
      ∃ value, Value.ofJson compiles plain.toJson = .ok value ∧ value.toJson = plain.toJson) ∧
    (∃ value, Value.ofJson compiles rule = .ok value ∧ value.walk? [.key "test"] = some (.pattern "a")) ∧
    ∃ fault, Value.ofJson compiles faulty = .error fault := by
  intro compiles plain rule faulty
  have expressible : plain.Expressible := by
    refine .map (by simp) fun key value held => ?_
    rcases List.mem_cons.mp held with first | second
    · cases first
      exact .array fun item listed => List.mem_singleton.mp listed ▸ .string
    · cases List.mem_singleton.mp second
      exact .string
  have free : plain.toJson.patternSources = [] := by decide +kernel
  obtain ⟨ofTree, ofDocument, patterns⟩ := json_inverse_away_from_patterns compiles
  have compiled : Value.ofPattern compiles "a" = .ok (.pattern "a") :=
    Value.ofPattern_eq_ok_iff.mpr ⟨by decide, rfl⟩
  have read : Value.ofJson compiles rule = .ok (.map [("test", .pattern "a")]) := by
    rw [Value.ofJson_object rfl, Entries.makeEach, List.mapM_cons, Value.ofJson_pattern, compiled]
    rfl
  refine ⟨⟨expressible, ofTree plain expressible⟩, ⟨free, ofDocument _ free⟩,
    ⟨_, read, ((patterns rule).places _ read [.key "test"] "a").mpr rfl⟩, (patterns faulty).fails.mpr ?_⟩
  exact ⟨"(", by decide +kernel, by decide⟩

end BuildConfig
