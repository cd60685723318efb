import BuildConfig.Proofs.Canonical.Untouched
import BuildConfig.Proofs.Value.Edits

namespace BuildConfig

open Value (notNull?)

namespace Rename

variable {rename : Rename} {config value : Value}

/-- Without a value under the old key there is nothing to move and nothing to say. -/
theorem apply_of_missing (missing : config.getPath? rename.source = none) : rename.apply config = (config, []) := by
  unfold apply
  split
  · rfl
  · rename_i takes
    rw [Value.getPath?_of_takePath? takes] at missing
    cases missing

/-- A move leaves nothing under the old key, whether the value goes to the new key or is ignored. -/
theorem getPath?_apply_source (apart : Apart rename.source rename.target) (distinct : config.DistinctKeys) :
    (rename.apply config).1.getPath? rename.source = none := by
  cases held : config.getPath? rename.source with
  | none => rw [apply_of_missing held, held]
  | some value =>
    obtain ⟨left, takes⟩ := Value.exists_takePath?_of_getPath? apart.symm.ne_nil held
    have gone := Value.getPath?_takePath?_self distinct takes
    simp only [apply, takes]
    split
    · exact gone
    · exact (Value.getPath?_insertPath_of_apart apart.symm _ _).trans gone

/-- The new key keeps what it holds, be it null, and takes the value of the old key if it is missing. -/
theorem getPath?_apply_target (apart : Apart rename.source rename.target)
    (held : config.getPath? rename.source = some value) :
    (rename.apply config).1.getPath? rename.target = some ((config.getPath? rename.target).getD value) := by
  obtain ⟨left, takes⟩ := Value.exists_takePath?_of_getPath? apart.symm.ne_nil held
  have kept : left.getPath? rename.target = config.getPath? rename.target :=
    Value.getPath?_takePath?_of_apart apart takes
  simp only [apply, takes]
  cases found : config.getPath? rename.target with
  | none => simp [kept, found]
  | some standing => simp [kept, found]

end Rename

section Runs

variable {rename : Rename} {steps : List Rename} {config value : Value}

/-- Moves with nothing under their old keys change nothing. -/
theorem renameAll_of_missing (missing : ∀ rename ∈ steps, config.getPath? rename.source = none) :
    renameAll steps config = (config, []) := by
  induction steps with
  | nil => rfl
  | cons first rest ih =>
    have nothing := Rename.apply_of_missing (missing first (List.mem_cons_self ..))
    rw [renameAll_cons, nothing, ih fun other listed => missing other (List.mem_cons_of_mem _ listed)]
    rfl

variable (separate : steps.Pairwise Rename.ApartFrom)
include separate

/-- A run of moves that have nothing to do with each other leaves nothing under any of the old keys. -/
theorem getPath?_renameAll_source (apart : ∀ rename ∈ steps, Apart rename.source rename.target)
    (distinct : config.DistinctKeys) : ∀ rename ∈ steps, (renameAll steps config).1.getPath? rename.source = none := by
  induction steps generalizing config with
  | nil => simp
  | cons first rest ih =>
    obtain ⟨separateFirst, separateRest⟩ := List.pairwise_cons.mp separate
    have distinctNext := (alike_apply first (Value.alike_self distinct)).distinctKeys.1
    intro rename listed
    rw [renameAll_cons]
    rcases List.mem_cons.mp listed with rfl | later
    · rw [getPath?_renameAll fun other listed => (separateFirst other listed).source]
      exact Rename.getPath?_apply_source (apart rename listed) distinct
    · exact ih separateRest (fun other listed => apart other (List.mem_cons_of_mem _ listed)) distinctNext rename later

/-- What one of the moves does to its new key is what the run does to it. -/
theorem getPath?_renameAll_target (listed : rename ∈ steps) (apart : Apart rename.source rename.target)
    (held : config.getPath? rename.source = some value) :
    (renameAll steps config).1.getPath? rename.target = some ((config.getPath? rename.target).getD value) := by
  induction steps generalizing config with
  | nil => cases listed
  | cons first rest ih =>
    obtain ⟨separateFirst, separateRest⟩ := List.pairwise_cons.mp separate
    rw [renameAll_cons]
    rcases List.mem_cons.mp listed with rfl | later
    · rw [getPath?_renameAll fun other listed => (separateFirst other listed).target]
      exact Rename.getPath?_apply_target apart held
    · have elsewhere := separateFirst rename later
      have sameSource := Rename.getPath?_apply elsewhere.symm.source.1.symm elsewhere.symm.source.2.symm config
      have sameTarget := Rename.getPath?_apply elsewhere.symm.target.1.symm elsewhere.symm.target.2.symm config
      rw [ih separateRest later (sameSource.trans held), sameTarget]

end Runs

/-- The value of an old key is not lost in canonical form: the new key has it, or else what was set there before.
The one exception is a null under the new key. It stands for nothing, and yet it stays and the value is dropped. -/
theorem moved_setting_survives_iff {rename : Rename} {config value : Value} (listed : rename ∈ renames)
    (held : config.getPath? rename.source = some value) (set : value ≠ .null) :
    (canonicalize config).1.getPath? rename.target = some ((config.getPath? rename.target).getD value) ∧
      (notNull? ((canonicalize config).1.getPath? rename.target) =
          some ((notNull? (config.getPath? rename.target)).getD value) ↔
        config.getPath? rename.target ≠ some .null) := by
  have apart := renames_apart rename listed
  have seen : (canonicalize config).1.getPath? rename.target =
      some ((config.getPath? rename.target).getD value) := by
    rw [canonicalize_eq (Value.isMap_of_getPath?_eq_some apart.symm.ne_nil held),
      getPath?_expandAll fun shorthand among => (shorthands_apart_from_renames shorthand among rename listed).2]
    exact getPath?_renameAll_target renames_separate listed apart held
  refine ⟨seen, ?_⟩
  rw [seen]
  cases config.getPath? rename.target with
  | none => simp [Value.notNull?_some set]
  | some standing =>
    by_cases null : standing = .null
    · simp [null]
    · simp [Value.notNull?_some null, null]

/-- Old minifier options, old test directories and a standing choice of directories that wins. -/
theorem moved_setting_survives_iff_minifier :
    let minifier : Rename := ⟨["webpack", "uglify"], ["webpack", "terser"]⟩
    let directories : Rename := ⟨["karma", "testDirs"], ["karma", "excludeFromCoverage"]⟩
    let options : Value := .map [("mangle", .bool false)]
    let config : Value := .map
      [("webpack", .map [("uglify", options), ("debug", .bool true)]),
        ("karma", .map [("excludeFromCoverage", .string "vendor"), ("testDirs", .array [.string "spec"])])]
    minifier ∈ renames ∧ directories ∈ renames ∧ config.getPath? minifier.source = some options ∧
      config.getPath? directories.source = some (.array [.string "spec"]) ∧
      (canonicalize config).1.getPath? minifier.target = some options ∧
      (canonicalize config).1.getPath? directories.target = some (.string "vendor") := by
  intro minifier directories options config
  have listed : minifier ∈ renames := by simp [renames, minifier]
  have listedToo : directories ∈ renames := by simp [renames, directories]
  have atOld : config.getPath? minifier.source = some options := rfl
  have atOldToo : config.getPath? directories.source = some (.array [.string "spec"]) := rfl
  exact ⟨listed, listedToo, atOld, atOldToo, (moved_setting_survives_iff listed atOld (by simp [options])).1,
    (moved_setting_survives_iff listedToo atOldToo (by simp)).1⟩

/-- A null under the new key takes the only setting away, and the notice has it that the null was set. -/
theorem null_under_new_key_hides_setting :
    let config : Value := .map [("webpack", .map [("uglify", .bool true), ("terser", .null)])]
    let notice : Notice := ⟨Path.ofKeys ["webpack", "uglify"],
      ["Deprecated in favour of webpack.terser", "webpack.terser is also set, so this value was ignored"]⟩
    config.getPath? ["webpack", "uglify"] = some (.bool true) ∧
      canonicalize config = (.map [("webpack", .map [("terser", .null)])], [.deprecation notice]) := by
  intro config notice
  exact ⟨rfl, by rfl⟩

end BuildConfig
