import BuildConfig.Proofs.Canonical.Untouched

namespace BuildConfig

namespace Entries

variable {α : Type}

/-- The table with a key renamed in its place. -/
def rename : Entries α → String → String → Entries α
  | [], _, _ => []
  | (name, value) :: rest, old, new =>
    if name = old then (new, value) :: rest else (name, value) :: rename rest old new

/-- A key that is renamed in its place is one that is taken out and put in under its new name. -/
theorem rename_perm {entries : Entries α} {old new : String} {value : α} (held : get? entries old = some value) :
    (rename entries old new).Perm ((new, value) :: erase entries old) := by
  induction entries with
  | nil => cases held
  | cons entry rest ih =>
    obtain ⟨name, first⟩ := entry
    by_cases same : name = old
    · rw [get?, if_pos same, Option.some.injEq] at held
      rw [rename, erase, if_pos same, if_pos same, held]
    · rw [get?, if_neg same] at held
      rw [rename, erase, if_neg same, if_neg same]
      exact ((ih held).cons _).trans (.swap ..)

theorem rename_perm_insert_erase {entries : Entries α} {old new : String} {value : α}
    (held : get? entries old = some value) (missing : get? entries new = none) :
    (rename entries old new).Perm (insert (erase entries old) new value) := by
  have different := ne_of_get? held missing
  have vacant : get? (erase entries old) new = none := by rw [get?_erase_of_ne _ different, missing]
  rw [insert_of_missing vacant]
  exact (rename_perm held).trans (List.perm_append_singleton _ _).symm

end Entries

open Value (Alike)

section Shorthands

variable {path : List String} {config value : Value} {shorthand : Shorthand}

/-- Moves between places apart from an edit are the same before it and after it. -/
theorem Rename.apply_insertPath {rename : Rename} (fromSource : Apart path rename.source)
    (fromTarget : Apart path rename.target) (held : (config.getPath? path).isSome = true) (new : Value) :
    rename.apply (config.insertPath path new) =
      ((rename.apply config).1.insertPath path new, (rename.apply config).2) := by
  unfold Rename.apply
  rw [Value.takePath?_insertPath fromSource held]
  cases takes : config.takePath? rename.source with
  | none => rfl
  | some both =>
    obtain ⟨value, left⟩ := both
    have heldLeft : (left.getPath? path).isSome = true := by
      rw [Value.getPath?_takePath?_of_apart fromSource.symm takes, held]
    simp only [Option.map_some, Value.getPath?_insertPath_of_apart fromTarget]
    split
    · rfl
    · rw [Value.insertPath_comm fromTarget heldLeft]

theorem renameAll_insertPath {steps : List Rename}
    (apart : ∀ rename ∈ steps, Apart path rename.source ∧ Apart path rename.target)
    (held : (config.getPath? path).isSome = true) (new : Value) :
    renameAll steps (config.insertPath path new) =
      ((renameAll steps config).1.insertPath path new, (renameAll steps config).2) := by
  induction steps generalizing config with
  | nil => rfl
  | cons rename rest ih =>
    obtain ⟨fromSource, fromTarget⟩ := apart rename (List.mem_cons_self ..)
    have heldNext : ((rename.apply config).1.getPath? path).isSome = true := by
      rw [Rename.getPath?_apply fromSource.symm fromTarget.symm, held]
    simp only [renameAll, Rename.apply_insertPath fromSource fromTarget held,
      ih (fun other listed => apart other (List.mem_cons_of_mem _ listed)) heldNext]

theorem Shorthand.expand_insertPath (apart : Apart path shorthand.path)
    (held : (config.getPath? path).isSome = true) (new : Value) :
    shorthand.expand (config.insertPath path new) = (shorthand.expand config).insertPath path new := by
  unfold Shorthand.expand
  rw [Value.getPath?_insertPath_of_apart apart]
  split
  · split
    · exact Value.insertPath_comm apart held new _
    · rfl
  · rfl

/-- A shorthand that is written out already comes to what it comes to when it is not. -/
theorem Shorthand.expand_insertPath_self (accepted : shorthand.accepts value = true)
    (notTwice : shorthand.accepts (.map [(shorthand.key, value)]) = false)
    (atPath : config.getPath? shorthand.path = some value) :
    shorthand.expand (config.insertPath shorthand.path (.map [(shorthand.key, value)])) = shorthand.expand config := by
  simp only [Shorthand.expand, Value.getPath?_insertPath_self, notTwice, atPath, accepted, if_true,
    Bool.false_eq_true, if_false]

theorem expandAll_insertPath {steps : List Shorthand} (listed : shorthand ∈ steps)
    (apart : steps.Pairwise fun earlier later => Apart later.path earlier.path)
    (accepted : shorthand.accepts value = true)
    (notTwice : shorthand.accepts (.map [(shorthand.key, value)]) = false)
    (atPath : config.getPath? shorthand.path = some value) :
    expandAll steps (config.insertPath shorthand.path (.map [(shorthand.key, value)])) = expandAll steps config := by
  induction steps generalizing config with
  | nil => cases listed
  | cons first rest ih =>
    obtain ⟨apartFirst, apartRest⟩ := List.pairwise_cons.mp apart
    simp only [expandAll, List.foldl_cons]
    rcases List.mem_cons.mp listed with rfl | later
    · rw [Shorthand.expand_insertPath_self accepted notTwice atPath]
    · have elsewhere := apartFirst shorthand later
      have held : (config.getPath? shorthand.path).isSome = true := by rw [atPath]; rfl
      rw [Shorthand.expand_insertPath elsewhere held]
      exact ih later apartRest ((Shorthand.getPath?_expand elsewhere.symm config).trans atPath)

/-- A configuration with one shorthand written out has the canonical form that it has without, and the
same is said about it, whatever else it holds. -/
theorem canonicalize_insertPath_shorthand (listed : shorthand ∈ shorthands) (accepted : shorthand.accepts value = true)
    (atPath : config.getPath? shorthand.path = some value) :
    canonicalize (config.insertPath shorthand.path (.map [(shorthand.key, value)])) = canonicalize config := by
  have notTwice : shorthand.accepts (.map [(shorthand.key, value)]) = false := accepts_eq_false listed rfl rfl
  have apart := shorthands_apart_from_renames shorthand listed
  have inside := shorthands_inside shorthand listed
  have held : (config.getPath? shorthand.path).isSome = true := by rw [atPath]; rfl
  have isMap := Value.isMap_of_getPath?_eq_some inside atPath
  have isMapAfter := Value.isMap_of_getPath?_eq_some inside
    (Value.getPath?_insertPath_self config (.map [(shorthand.key, value)]) shorthand.path)
  have expanded := expandAll_insertPath listed shorthands_separate accepted notTwice
    ((getPath?_renameAll apart config).trans atPath)
  rw [canonicalize_eq isMap, canonicalize_eq isMapAfter, renameAll_insertPath apart held, expanded]

/-- The short values that stand for a map with one key, where they are found. -/
inductive StandsFor : List String → Value → Value → Prop
  | umd (text : String) : StandsFor ["npm", "umd"] (.string text) (.map [("global", .string text)])
  | autoprefixer (text : String) :
      StandsFor ["webpack", "autoprefixer"] (.string text) (.map [("browsers", .string text)])
  | copy (items : List Value) : StandsFor ["webpack", "copy"] (.array items) (.map [("patterns", .array items)])

theorem StandsFor.exists_shorthand {short whole : Value} (stands : StandsFor path short whole) :
    ∃ shorthand ∈ shorthands, shorthand.path = path ∧ shorthand.accepts short = true ∧
      .map [(shorthand.key, short)] = whole := by
  cases stands with
  | umd => exact ⟨_, .head _, rfl, rfl, rfl⟩
  | autoprefixer => exact ⟨_, .tail _ (.head _), rfl, rfl, rfl⟩
  | copy => exact ⟨_, .tail _ (.tail _ (.head _)), rfl, rfl, rfl⟩

theorem StandsFor.canonicalize_eq {short whole : Value} (stands : StandsFor path short whole)
    (atPath : config.getPath? path = some short) :
    canonicalize (config.insertPath path whole) = canonicalize config := by
  obtain ⟨shorthand, listed, rfl, accepted, rfl⟩ := stands.exists_shorthand
  exact canonicalize_insertPath_shorthand listed accepted atPath

end Shorthands

section Moves

variable {table old new : String} {entries : Entries Value} {config a b : Value}

theorem renameAll_alike (steps : List Rename) (alike : Alike a b) :
    Alike (renameAll steps a).1 (renameAll steps b).1 ∧ (renameAll steps a).2 = (renameAll steps b).2 := by
  induction steps generalizing a b with
  | nil => exact ⟨alike, rfl⟩
  | cons rename rest ih =>
    obtain ⟨next, found⟩ := rename.apply_alike alike
    obtain ⟨trees, remarks⟩ := ih next
    exact ⟨trees, by simp only [renameAll, remarks, found]⟩

/-- Where a table holds the old key and not the new one, the move puts the value at the table's end. -/
theorem Rename.apply_key (atTable : config.get? table = some (.map entries)) {value : Value}
    (held : Entries.get? entries old = some value) (missing : Entries.get? entries new = none) :
    ∃ advice, (Rename.mk [table, old] [table, new]).apply config =
      (config.insertPath [table] (.map (Entries.insert (Entries.erase entries old) new value)),
        [(Rename.mk [table, old] [table, new]).deprecation advice]) := by
  have different := Entries.ne_of_get? held missing
  have takes : config.takePath? [table, old] =
      some (value, .map (Entries.insert config.entries table (.map (Entries.erase entries old)))) := by
    simp [Value.takePath?, atTable, held]
  have vacant : (Value.map (Entries.insert config.entries table (.map (Entries.erase entries old)))).getPath?
      [table, new] = none := by
    simp [Value.getPath?_cons, Entries.get?_insert_self, Entries.get?_erase_of_ne _ different, missing]
  refine ⟨"Rename " ++ dotted [table, old] ++ " to " ++ dotted [table, new] ++ " in your config", ?_⟩
  simp only [Rename.apply, takes, vacant, Option.isSome_none, Bool.false_eq_true, if_false, Value.insertPath,
    Value.entries_map, Value.get?_map, Entries.get?_insert_self, Option.getD_some, Entries.insert_insert_self]

/-- Once its key is renamed, there is nothing left to move. -/
theorem Rename.apply_renamed (distinct : Entries.Distinct entries) {value : Value}
    (held : Entries.get? entries old = some value) (missing : Entries.get? entries new = none) (config : Value) :
    (Rename.mk [table, old] [table, new]).apply (config.insertPath [table] (.map (Entries.rename entries old new))) =
      (config.insertPath [table] (.map (Entries.rename entries old new)), []) := by
  have gone : Entries.get? (Entries.rename entries old new) old = none := by
    have perm := Entries.rename_perm_insert_erase held missing
    have renamedDistinct := ((distinct.erase old).insert new value).perm perm.symm
    have different := Entries.ne_of_get? held missing
    rw [renamedDistinct.get?_eq_of_perm perm, Entries.get?_insert_of_ne _ _ (Ne.symm different),
      Entries.get?_erase_self distinct]
  simp [Rename.apply, Value.takePath?, Value.insertPath, gone]

/-- The tree after a move is the tree in which the key is renamed in its place, but for the order of
keys. -/
theorem Rename.alike_apply_renamed (distinct : config.DistinctKeys) (atTable : config.get? table = some (.map entries))
    {value : Value} (held : Entries.get? entries old = some value) (missing : Entries.get? entries new = none) :
    Alike ((Rename.mk [table, old] [table, new]).apply config).1
      (config.insertPath [table] (.map (Entries.rename entries old new))) := by
  obtain ⟨advice, moves⟩ := Rename.apply_key atTable held missing
  rw [moves]
  have inTable := Value.alike_self (distinct.get? atTable)
  have moved := (inTable.erase old).insert (Value.alike_self ((distinct.get? atTable).get? held)) new
  have sameEntries := (Entries.rename_perm_insert_erase held missing).symm
  exact (Value.alike_self distinct).insertPath (Value.alike_of_perm moved.distinctKeys.1 sameEntries) [table]

theorem Value.DistinctKeys.renamed (distinct : config.DistinctKeys) (atTable : config.get? table = some (.map entries))
    (held : old ∈ Entries.keys entries) (missing : new ∉ Entries.keys entries) :
    (config.insertPath [table] (.map (Entries.rename entries old new))).DistinctKeys := by
  obtain ⟨value, atOld⟩ := Entries.mem_keys_iff.mp held
  exact (Rename.alike_apply_renamed distinct atTable atOld (Entries.get?_eq_none_iff.mpr missing)).distinctKeys.2

/-- The notices are those others and one more, which is about a place. -/
def OneMore (place : Path) (notices others : List Notice) : Prop :=
  ∃ before notice after, notice.path = place ∧ notices = before ++ notice :: after ∧ others = before ++ after

theorem OneMore.cons (notice : Notice) (rest : List Notice) : OneMore notice.path (notice :: rest) rest :=
  ⟨[], notice, rest, rfl, rfl, rfl⟩

theorem OneMore.append_left {place : Path} {notices others : List Notice} (more : OneMore place notices others)
    (first : List Notice) : OneMore place (first ++ notices) (first ++ others) := by
  obtain ⟨before, notice, after, atPlace, rfl, rfl⟩ := more
  exact ⟨first ++ before, notice, after, atPlace, by rw [List.append_assoc], by rw [List.append_assoc]⟩

theorem OneMore.append_right {place : Path} {notices others : List Notice} (more : OneMore place notices others)
    (last : List Notice) : OneMore place (notices ++ last) (others ++ last) := by
  obtain ⟨before, notice, after, atPlace, rfl, rfl⟩ := more
  exact ⟨before, notice, after ++ last, atPlace, by simp, by simp⟩

theorem renameAll_renamed {steps : List Rename} (listed : ⟨[table, old], [table, new]⟩ ∈ steps)
    (apart : steps.Pairwise fun earlier later =>
      Apart (later.source.take 1) earlier.source ∧ Apart (later.source.take 1) earlier.target)
    (distinct : config.DistinctKeys) (atTable : config.get? table = some (.map entries)) {value : Value}
    (held : Entries.get? entries old = some value) (missing : Entries.get? entries new = none) :
    Alike (renameAll steps config).1
        (renameAll steps (config.insertPath [table] (.map (Entries.rename entries old new)))).1 ∧
      OneMore (Path.ofKeys [table, old]) (deprecationNotices (renameAll steps config).2)
        (deprecationNotices
          (renameAll steps (config.insertPath [table] (.map (Entries.rename entries old new)))).2) := by
  -- moves before the one in question leave its table alone, and those after it see alike trees
  induction steps generalizing config with
  | nil => cases listed
  | cons first rest ih =>
    obtain ⟨apartFirst, apartRest⟩ := List.pairwise_cons.mp apart
    rcases List.mem_cons.mp listed with rfl | later
    · obtain ⟨trees, remarks⟩ := renameAll_alike rest (Rename.alike_apply_renamed distinct atTable held missing)
      have inTable : Entries.Distinct entries := (distinct.get? atTable).entries
      obtain ⟨advice, moves⟩ := Rename.apply_key atTable held missing
      rw [renameAll_cons, renameAll_cons, Rename.apply_renamed inTable held missing, List.nil_append]
      refine ⟨trees, ?_⟩
      rw [deprecationNotices_append, remarks, moves]
      exact OneMore.cons ⟨Path.ofKeys [table, old], ["Deprecated in favour of " ++ dotted [table, new], advice]⟩ _
    · have fromSource : Apart [table] first.source := (apartFirst _ later).1
      have fromTarget : Apart [table] first.target := (apartFirst _ later).2
      have heldTable : (config.getPath? [table]).isSome = true := by rw [Value.getPath?_single, atTable]; rfl
      have distinctNext := (alike_apply first (Value.alike_self distinct)).distinctKeys.1
      have atTableNext : (first.apply config).1.get? table = some (.map entries) := by
        rw [← Value.getPath?_single, Rename.getPath?_apply fromSource.symm fromTarget.symm, Value.getPath?_single,
          atTable]
      obtain ⟨trees, more⟩ := ih later apartRest distinctNext atTableNext
      rw [renameAll_cons, renameAll_cons, Rename.apply_insertPath fromSource fromTarget heldTable,
        deprecationNotices_append, deprecationNotices_append]
      exact ⟨trees, more.append_left _⟩

/-- Keys of tables that have a new name. -/
inductive NewName : String → String → String → Prop
  | terser : NewName "webpack" "uglify" "terser"
  | excludeFromCoverage : NewName "karma" "testDirs" "excludeFromCoverage"

theorem NewName.mem_renames (renamed : NewName table old new) : ⟨[table, old], [table, new]⟩ ∈ renames := by
  cases renamed <;> simp [renames]

theorem deprecationNotices_recommendations (advised : List Recommendation) (config : Value) :
    deprecationNotices (advised.flatMap fun advice => advice.findings config) = [] := by
  refine deprecationNotices_eq_nil_iff.mpr fun notice listed => ?_
  obtain ⟨advice, _, found⟩ := List.mem_flatMap.mp listed
  unfold Recommendation.findings at found
  split at found <;> simp at found

/-- A configuration that uses the old name of a key has the canonical form that it has with the new one,
but for the order of keys, and one deprecation more. -/
theorem canonicalize_renamed (renamed : NewName table old new) (distinct : config.DistinctKeys)
    (atTable : config.get? table = some (.map entries)) (held : old ∈ Entries.keys entries)
    (missing : new ∉ Entries.keys entries) :
    Alike (canonicalize config).1
        (canonicalize (config.insertPath [table] (.map (Entries.rename entries old new)))).1 ∧
      OneMore (Path.ofKeys [table, old]) (deprecationNotices (canonicalize config).2)
        (deprecationNotices
          (canonicalize (config.insertPath [table] (.map (Entries.rename entries old new)))).2) := by
  obtain ⟨value, atOld⟩ := Entries.mem_keys_iff.mp held
  have apart : renames.Pairwise fun earlier later =>
      Apart (later.source.take 1) earlier.source ∧ Apart (later.source.take 1) earlier.target := by decide
  obtain ⟨trees, more⟩ :=
    renameAll_renamed renamed.mem_renames apart distinct atTable atOld (Entries.get?_eq_none_iff.mpr missing)
  have isMap := Value.isMap_of_get?_eq_some atTable
  rw [canonicalize_eq isMap, canonicalize_eq rfl]
  refine ⟨List.foldl_rel trees fun shorthand listed _ _ before => alike_expand listed before, ?_⟩
  rw [deprecationNotices_append, deprecationNotices_append, deprecationNotices_recommendations,
    deprecationNotices_recommendations]
  exact more.append_right []

end Moves

end BuildConfig
