import BuildConfig.Proofs.Canonical.Moves

namespace BuildConfig

/-- Nothing is left to move and nothing stands for a map. -/
structure IsCanonical (config : Value) : Prop where
  moved : ∀ rename ∈ renames, config.getPath? rename.source = none
  writtenOut : ∀ shorthand ∈ shorthands, ∀ value, config.getPath? shorthand.path = some value →
    shorthand.accepts value = false

section Shorthands

variable {shorthand : Shorthand} {steps : List Shorthand} {config : Value}

theorem Shorthand.expand_of_writtenOut
    (writtenOut : ∀ value, config.getPath? shorthand.path = some value → shorthand.accepts value = false) :
    shorthand.expand config = config := by
  unfold expand
  split
  · rename_i value found
    rw [writtenOut value found, if_neg Bool.false_ne_true]
  · rfl

theorem expandAll_of_writtenOut (writtenOut : ∀ shorthand ∈ steps, ∀ value,
    config.getPath? shorthand.path = some value → shorthand.accepts value = false) :
    expandAll steps config = config := by
  induction steps with
  | nil => rfl
  | cons first rest ih =>
    have same := Shorthand.expand_of_writtenOut (writtenOut first (List.mem_cons_self ..))
    have later := ih fun other listed => writtenOut other (List.mem_cons_of_mem _ listed)
    rw [expandAll, List.foldl_cons, same]
    exact later

/-- What a shorthand is written out as is no shorthand again. -/
theorem Shorthand.writtenOut_expand
    (notTwice : ∀ value : Value, value.isMap = true → shorthand.accepts value = false) (config : Value) :
    ∀ value, (shorthand.expand config).getPath? shorthand.path = some value → shorthand.accepts value = false := by
  intro value seen
  unfold expand at seen
  split at seen
  · rename_i held found
    split at seen
    · rw [Value.getPath?_insertPath_self, Option.some.injEq] at seen
      exact notTwice value (seen ▸ rfl)
    · rename_i rejected
      rw [found, Option.some.injEq] at seen
      exact seen ▸ Bool.not_eq_true _ ▸ rejected
  · rename_i missing
    rw [missing] at seen
    cases seen

theorem writtenOut_expandAll (apart : steps.Pairwise fun earlier later => Apart later.path earlier.path)
    (notTwice : ∀ shorthand ∈ steps, ∀ value : Value, value.isMap = true → shorthand.accepts value = false)
    (config : Value) : ∀ shorthand ∈ steps, ∀ value,
      (expandAll steps config).getPath? shorthand.path = some value → shorthand.accepts value = false := by
  induction steps generalizing config with
  | nil => simp
  | cons first rest ih =>
    obtain ⟨apartFirst, apartRest⟩ := List.pairwise_cons.mp apart
    have expands : expandAll (first :: rest) config = expandAll rest (first.expand config) := rfl
    intro shorthand listed value seen
    rw [expands] at seen
    rcases List.mem_cons.mp listed with rfl | later
    · rw [getPath?_expandAll apartFirst] at seen
      exact Shorthand.writtenOut_expand (notTwice _ listed) config value seen
    · exact ih apartRest (fun other among => notTwice other (List.mem_cons_of_mem _ among)) _ shorthand later value seen

end Shorthands

section Advice

theorem Recommendation.findings_cases (advice : Recommendation) (config : Value) :
    ∀ finding ∈ advice.findings config, ∃ notice, finding = .hint notice := by
  unfold findings
  split <;> simp

/-- The hints about a configuration are those about its canonical form. -/
theorem hints_canonicalize (config : Value) :
    (hintNotices (canonicalize config).2).map .hint =
      recommendations.flatMap fun advice => advice.findings (canonicalize config).1 := by
  cases isMap : config.isMap with
  | true =>
    have hints : ∀ tree : Value, ∀ finding ∈ recommendations.flatMap (fun advice => advice.findings tree),
        ∃ notice, finding = .hint notice := by
      intro tree finding listed
      obtain ⟨advice, _, found⟩ := List.mem_flatMap.mp listed
      exact advice.findings_cases tree finding found
    rw [canonicalize_eq isMap, hintNotices_append, hintNotices_renameAll, List.nil_append,
      map_hint_hintNotices (hints _)]
  | false =>
    have inside : ∀ advice ∈ recommendations, advice.path ≠ [] := by decide
    rw [canonicalize_of_not_isMap isMap]
    refine (List.flatMap_eq_nil_iff.mpr fun advice listed => ?_).symm
    rw [Recommendation.findings, Value.getPath?_eq_none_of_not_isMap isMap (inside advice listed)]
    rfl

end Advice

section FixedPoints

variable {config : Value}

theorem IsCanonical.unchanged (canonical : IsCanonical config) : (canonicalize config).1 = config := by
  rw [canonicalize_fst]
  split
  · rw [canonicalMap, ← renameAll_fst, renameAll_of_missing canonical.moved]
    exact expandAll_of_writtenOut canonical.writtenOut
  · rfl

/-- Hints are all there is to say about a configuration in canonical form. -/
theorem IsCanonical.only_hints (canonical : IsCanonical config) :
    (canonicalize config).2 = (hintNotices (canonicalize config).2).map .hint := by
  cases isMap : config.isMap with
  | true =>
    rw [hints_canonicalize, canonical.unchanged, canonicalize_eq isMap, renameAll_of_missing canonical.moved,
      expandAll_of_writtenOut canonical.writtenOut, List.nil_append]
  | false =>
    rw [canonicalize_of_not_isMap isMap]
    rfl

theorem isCanonical_canonicalize (distinct : config.DistinctKeys) : IsCanonical (canonicalize config).1 := by
  cases isMap : config.isMap with
  | true =>
    rw [canonicalize_eq isMap]
    refine ⟨fun rename listed => ?_,
      writtenOut_expandAll shorthands_separate (fun shorthand listed value isMap => ?_) _⟩
    · rw [getPath?_expandAll fun shorthand among => (shorthands_apart_from_renames shorthand among rename listed).1]
      exact getPath?_renameAll_source renames_separate renames_apart distinct rename listed
    · obtain ⟨entries, rfl⟩ := Value.isMap_iff.mp isMap
      exact accepts_eq_false listed rfl rfl
  | false =>
    rw [canonicalize_of_not_isMap isMap]
    refine ⟨fun rename listed => ?_, fun shorthand listed value held => ?_⟩
    · exact Value.getPath?_eq_none_of_not_isMap isMap (renames_apart rename listed).symm.ne_nil
    · rw [Value.getPath?_eq_none_of_not_isMap isMap (shorthands_inside shorthand listed)] at held
      cases held

end FixedPoints

/-- A second pass changes nothing, not even the order of keys. It deprecates nothing and has the hints of the first
pass to give again. -/
theorem canonicalize_idempotent {config : Value} (distinct : config.DistinctKeys) :
    canonicalize (canonicalize config).1 =
      ((canonicalize config).1, (hintNotices (canonicalize config).2).map .hint) := by
  have canonical := isCanonical_canonicalize distinct
  have hints : (canonicalize (canonicalize config).1).2 = (hintNotices (canonicalize config).2).map .hint := by
    rw [canonical.only_hints, hints_canonicalize, canonical.unchanged, ← hints_canonicalize]
  exact Prod.ext canonical.unchanged hints

/-- Two old keys, three shorthands and a map that there is an option for, in an order of their own. -/
theorem canonicalize_idempotent_spellings :
    let config : Value := .map
      [("webpack", .map [("copy", .array [.string "icons"]), ("uglify", .null), ("autoprefixer", .string "ie 11"),
          ("extra", .map [("output", .map [("publicPath", .string "/")])])]),
        ("npm", .map [("umd", .string "Widget"), ("cjs", .bool false)]),
        ("karma", .map [("testDirs", .string "spec"), ("browsers", .array [])])]
    let canonical := (canonicalize config).1
    let hints := hintNotices (canonicalize config).2
    config.DistinctKeys ∧ hints.map Notice.path = [Path.ofKeys ["webpack", "extra", "output", "publicPath"]] ∧
      (deprecationNotices (canonicalize config).2).map Notice.path =
        [Path.ofKeys ["webpack", "uglify"], Path.ofKeys ["karma", "testDirs"]] ∧
      canonicalize canonical = (canonical, hints.map .hint) := by
  intro config canonical hints
  have distinct : config.DistinctKeys := by decide
  have advised : hints.map Notice.path = [Path.ofKeys ["webpack", "extra", "output", "publicPath"]] := by
    decide +kernel
  have deprecated : (deprecationNotices (canonicalize config).2).map Notice.path =
      [Path.ofKeys ["webpack", "uglify"], Path.ofKeys ["karma", "testDirs"]] := by
    decide +kernel
  exact ⟨distinct, advised, deprecated, canonicalize_idempotent distinct⟩

end BuildConfig
