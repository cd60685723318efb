import BuildConfig.Proofs.Merge.Paths

namespace BuildConfig.Value

section Steps

variable (strategy : MergeStrategy) (path : List String)

/-- Entries change nothing in a map that already holds, under each of their keys, what they would make of it. -/
theorem mergeEntries_eq_self {base overlay : Entries Value}
    (settled : ∀ key value, (key, value) ∈ overlay → value ≠ .null → ∃ existing, Entries.get? base key = some existing ∧
      mergeAt strategy (path ++ [key]) existing value = existing) :
    mergeEntries strategy path base overlay = base := by
  induction overlay with
  | nil => exact mergeEntries_nil strategy path base
  | cons entry rest ih =>
    obtain ⟨name, value⟩ := entry
    have later : mergeEntries strategy path base rest = base :=
      ih fun key child listed => settled key child (List.mem_cons_of_mem _ listed)
    by_cases null : value = .null
    · rw [null, mergeEntries_cons_null, later]
    · obtain ⟨existing, held, same⟩ := settled name value (List.mem_cons_self ..) null
      rw [mergeEntries_cons strategy path base name null, held, Option.elim_some, same, Entries.insert_of_get? held,
        later]

variable {strategy} (replaces : ∀ place, ¬strategy.AppendsAt place)

include replaces

/-- Where no arrays are appended, only maps are combined. -/
theorem mergeAt_replaced {base overlay : Value} (notNull : overlay ≠ .null)
    (maps : base.isMap = true → overlay.isMap = false) : mergeAt strategy path base overlay = overlay := by
  by_cases arrays : base.isArray = true ∧ overlay.isArray = true
  · obtain ⟨lower, rfl⟩ := isArray_iff.mp arrays.1
    obtain ⟨upper, rfl⟩ := isArray_iff.mp arrays.2
    have covers : ¬strategy.concatenatesAt path = true := mt MergeStrategy.concatenatesAt_iff.mp (replaces path)
    rw [mergeAt_array, if_neg covers]
  · exact mergeAt_covered strategy path notNull maps (by simpa using arrays)

/-- A tree laid over itself gives the same tree, and its nulls stay where they are. -/
theorem mergeAt_self {value : Value} (distinct : value.DistinctKeys) :
    mergeAt strategy path value value = value := by
  induction value using treeInduction generalizing path with
  | leaf value notMap _ =>
    by_cases null : value = .null
    · rw [null, mergeAt_null]
    · exact mergeAt_replaced path replaces null fun _ => notMap
  | array items => exact mergeAt_replaced path replaces (by simp) fun _ => rfl
  | map entries ih =>
    obtain ⟨distinctHere, inside⟩ := distinctKeys_map.mp distinct
    rw [mergeAt_map]
    refine congrArg map (mergeEntries_eq_self strategy path fun key child listed _ => ?_)
    have held : Entries.get? entries key = some child := distinctHere.get?_of_mem listed
    exact ⟨child, held, ih key child listed (path ++ [key]) (inside key child held)⟩

theorem mergeAt_again_of_covered {base overlay : Value} (distinct : overlay.DistinctKeys)
    (covers : mergeAt strategy path base overlay = overlay) :
    mergeAt strategy path (mergeAt strategy path base overlay) overlay = mergeAt strategy path base overlay := by
  rw [covers, mergeAt_self path replaces distinct]

/-- A tree that is laid over another one twice leaves what it leaves the first time. The second time it meets its own
parts, where it has covered or added something, and merges with them anywhere else. -/
theorem mergeAt_again (base : Value) {overlay : Value} (distinct : overlay.DistinctKeys) :
    mergeAt strategy path (mergeAt strategy path base overlay) overlay = mergeAt strategy path base overlay := by
  induction overlay using treeInduction generalizing base path with
  | leaf overlay notMap _ =>
    by_cases null : overlay = .null
    · rw [null, mergeAt_null, mergeAt_null]
    · exact mergeAt_again_of_covered path replaces distinct (mergeAt_replaced path replaces null fun _ => notMap)
  | array items =>
    exact mergeAt_again_of_covered path replaces distinct (mergeAt_replaced path replaces (by simp) fun _ => rfl)
  | map entries ih =>
    by_cases isMap : base.isMap = true
    · obtain ⟨lower, rfl⟩ := isMap_iff.mp isMap
      obtain ⟨distinctHere, inside⟩ := distinctKeys_map.mp distinct
      rw [mergeAt_map, mergeAt_map]
      refine congrArg map (mergeEntries_eq_self strategy path fun key child listed notNull => ?_)
      have above : Entries.get? entries key = some child := distinctHere.get?_of_mem listed
      have merged := get?_mergeEntries strategy path lower distinctHere key
      rw [above, mergeUnder_some strategy _ _ notNull] at merged
      -- the first merge has left the child itself under its key, or a merge with the child
      refine ⟨_, merged, ?_⟩
      cases Entries.get? lower key with
      | none => exact mergeAt_self (path ++ [key]) replaces (inside key child above)
      | some existing => exact ih key child listed (path ++ [key]) existing (inside key child above)
    · refine mergeAt_again_of_covered path replaces distinct (mergeAt_replaced path replaces (by simp) fun held => ?_)
      exact absurd held isMap

end Steps

/-- Laying a tree over a merge that it is part of already changes nothing, and a tree over itself is the tree. Both
hold to the order of keys and to every null, at any depth. -/
theorem merge_again_changes_nothing (base : Value) {overlay : Value} (distinct : overlay.DistinctKeys) :
    (base.merge overlay).merge overlay = base.merge overlay ∧ overlay.merge overlay = overlay := by
  have replaces : ∀ place, ¬MergeStrategy.replacing.AppendsAt place := by
    intro place appends
    simp [MergeStrategy.AppendsAt, MergeStrategy.replacing] at appends
  exact ⟨mergeAt_again [] replaces base distinct, mergeAt_self [] replaces distinct⟩

/-- Nulls beside keys that are held and inside of a map that is new, a map over a scalar and a scalar over a map, and a
key order that the merge does not share with either tree. -/
theorem merge_again_changes_nothing_nulls :
    let base : Value := .map
      [("npm", .map [("umd", .map [("global", .string "App")]), ("cjs", .bool true)]), ("karma", .null),
        ("babel", .map [("presets", .array [.string "react"]), ("env", .bool false)])]
    let overlay : Value := .map
      [("webpack", .map [("html", .null)]), ("karma", .null),
        ("babel", .map [("loose", .bool true), ("env", .map [("modules", .null)]), ("presets", .array [.null])]),
        ("npm", .map [("umd", .bool false), ("cjs", .null)])]
    let merged : Value := .map
      [("npm", .map [("umd", .bool false), ("cjs", .bool true)]), ("karma", .null),
        ("babel", .map [("presets", .array [.null]), ("env", .map [("modules", .null)]), ("loose", .bool true)]),
        ("webpack", .map [("html", .null)])]
    overlay.DistinctKeys ∧ base.merge overlay = merged ∧ merged.merge overlay = merged ∧
      overlay.merge overlay = overlay := by
  intro base overlay merged
  have distinct : overlay.DistinctKeys := by decide
  have once : base.merge overlay = merged := by
    simp [base, overlay, merged, merge, mergeWith, mergeAt, mergeEntries, isNull, Entries.get?, Entries.insert,
      MergeStrategy.concatenatesAt, MergeStrategy.replacing]
  obtain ⟨again, itself⟩ := merge_again_changes_nothing base distinct
  rw [once] at again
  exact ⟨distinct, once, again, itself⟩

end BuildConfig.Value
