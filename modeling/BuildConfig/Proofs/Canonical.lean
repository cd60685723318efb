import BuildConfig.Canonical
import BuildConfig.Proofs.Findings
import BuildConfig.Proofs.Value.AlikeEdits

namespace BuildConfig

/-- Moves made one after the other, with all that is remarked on the way. -/
def renameAll : List Rename → Value → Value × List Finding
  | [], config => (config, [])
  | rename :: rest, config =>
    let (next, found) := rename.apply config
    let (last, more) := renameAll rest next
    (last, found ++ more)

theorem renameAll_cons (rename : Rename) (rest : List Rename) (config : Value) :
    renameAll (rename :: rest) config =
      ((renameAll rest (rename.apply config).1).1,
        (rename.apply config).2 ++ (renameAll rest (rename.apply config).1).2) :=
  rfl

theorem foldl_apply_eq (steps : List Rename) (config : Value) (findings : List Finding) :
    steps.foldl (fun (config, findings) rename =>
      let (next, found) := rename.apply config
      (next, findings ++ found)) (config, findings) =
      ((renameAll steps config).1, findings ++ (renameAll steps config).2) := by
  induction steps generalizing config findings with
  | nil => simp [renameAll]
  | cons step rest ih => rw [List.foldl_cons, ih, renameAll_cons, List.append_assoc]

theorem renameAll_fst (steps : List Rename) (config : Value) :
    (renameAll steps config).1 = steps.foldl (fun config rename => (rename.apply config).1) config := by
  induction steps generalizing config with
  | nil => rfl
  | cons step rest ih => exact ih _

/-- The shorthands of a list written out, one after the other. -/
def expandAll (steps : List Shorthand) (config : Value) : Value :=
  steps.foldl (fun config shorthand => shorthand.expand config) config

/-- A tree that is no map is its own canonical form. -/
theorem canonicalize_of_not_isMap {config : Value} (notMap : config.isMap = false) :
    canonicalize config = (config, []) := by
  rw [canonicalize, notMap, if_neg Bool.false_ne_true]

theorem canonicalize_eq {config : Value} (isMap : config.isMap = true) :
    canonicalize config =
      (expandAll shorthands (renameAll renames config).1,
        (renameAll renames config).2 ++ recommendations.flatMap fun advice =>
          advice.findings (expandAll shorthands (renameAll renames config).1)) := by
  rw [canonicalize, if_pos isMap, foldl_apply_eq, List.nil_append]
  rfl

/-- The canonical form of a map, without what is remarked on the way. -/
def canonicalMap (config : Value) : Value :=
  shorthands.foldl (fun config shorthand => shorthand.expand config)
    (renames.foldl (fun config rename => (rename.apply config).1) config)

theorem canonicalize_fst (config : Value) :
    (canonicalize config).1 = if config.isMap then canonicalMap config else config := by
  split
  · rename_i isMap
    rw [canonicalize_eq isMap, renameAll_fst]
    rfl
  · rename_i notMap
    rw [canonicalize_of_not_isMap (Bool.not_eq_true _ ▸ notMap)]

theorem problems_apply (rename : Rename) (config : Value) : problems (rename.apply config).2 = [] := by
  unfold Rename.apply
  split
  · rfl
  · split <;> rfl

theorem problems_recommendation (advice : Recommendation) (config : Value) :
    problems (advice.findings config) = [] := by
  unfold Recommendation.findings
  split <;> rfl

theorem problems_renameAll (steps : List Rename) (config : Value) : problems (renameAll steps config).2 = [] := by
  induction steps generalizing config with
  | nil => rfl
  | cons step rest ih => rw [renameAll_cons, problems_append, problems_apply, ih, List.append_nil]

theorem hintNotices_renameAll (steps : List Rename) (config : Value) : hintNotices (renameAll steps config).2 = [] := by
  have silent (rename : Rename) (config : Value) : hintNotices (rename.apply config).2 = [] := by
    unfold Rename.apply
    split
    · rfl
    · split <;> rfl
  induction steps generalizing config with
  | nil => rfl
  | cons step rest ih => rw [renameAll_cons, hintNotices_append, silent, ih, List.append_nil]

/-- Bringing a configuration to canonical form never finds anything wrong with it. -/
theorem problems_canonicalize (config : Value) : problems (canonicalize config).2 = [] := by
  cases isMap : config.isMap with
  | true =>
    rw [canonicalize_eq isMap, problems_append, problems_renameAll, problems_flatMap]
    simp [problems_recommendation]
  | false => rw [canonicalize_of_not_isMap isMap, problems_nil]

/-- A move does not depend on the order of keys, and neither does what is remarked on it. -/
theorem Rename.apply_alike (rename : Rename) {a b : Value} (alike : Value.Alike a b) :
    Value.Alike (rename.apply a).1 (rename.apply b).1 ∧ (rename.apply a).2 = (rename.apply b).2 := by
  have taken := alike.takePath? rename.source
  unfold Rename.apply
  cases atA : a.takePath? rename.source with
  | none =>
    cases atB : b.takePath? rename.source with
    | none => exact ⟨alike, rfl⟩
    | some => rw [atA, atB] at taken; cases taken
  | some left =>
    cases atB : b.takePath? rename.source with
    | none => rw [atA, atB] at taken; cases taken
    | some right =>
      rw [atA, atB, Option.rel_some_some] at taken
      obtain ⟨values, remains⟩ := taken
      have together := isSome_of_rel (remains.getPath? rename.target)
      simp only [together]
      split
      · exact ⟨remains, rfl⟩
      · exact ⟨remains.insertPath values rename.target, rfl⟩

theorem alike_apply (rename : Rename) {a b : Value} (alike : Value.Alike a b) :
    Value.Alike (rename.apply a).1 (rename.apply b).1 :=
  (rename.apply_alike alike).1

/-- Shorthands are told from other values without a look at the order of keys. -/
theorem accepts_of_alike {shorthand : Shorthand} (listed : shorthand ∈ shorthands) {a b : Value}
    (alike : Value.Alike a b) : shorthand.accepts a = shorthand.accepts b := by
  simp only [shorthands, List.mem_cons, List.not_mem_nil, or_false] at listed
  rcases listed with rfl | rfl | rfl
  · simp only [alike.asString?]
  · simp only [alike.asString?]
  · exact alike.isArray

/-- Only strings and arrays are shorthands. -/
theorem accepts_eq_false {shorthand : Shorthand} (listed : shorthand ∈ shorthands) {value : Value}
    (notString : value.asString? = none) (notArray : value.isArray = false) : shorthand.accepts value = false := by
  simp only [shorthands, List.mem_cons, List.not_mem_nil, or_false] at listed
  rcases listed with rfl | rfl | rfl
  · simp only [notString, Option.isSome_none]
  · simp only [notString, Option.isSome_none]
  · exact notArray

theorem alike_expand {shorthand : Shorthand} (listed : shorthand ∈ shorthands) {a b : Value}
    (alike : Value.Alike a b) : Value.Alike (shorthand.expand a) (shorthand.expand b) := by
  have found := alike.getPath? shorthand.path
  unfold Shorthand.expand
  cases atA : a.getPath? shorthand.path with
  | none =>
    cases atB : b.getPath? shorthand.path with
    | none => exact alike
    | some => rw [atA, atB] at found; cases found
  | some left =>
    cases atB : b.getPath? shorthand.path with
    | none => rw [atA, atB] at found; cases found
    | some right =>
      rw [atA, atB, Option.rel_some_some] at found
      simp only [accepts_of_alike listed found]
      split
      · exact alike.insertPath (Value.alike_empty.insert found shorthand.key) shorthand.path
      · exact alike

/-- The canonical form does not depend on the order of keys. -/
theorem alike_canonicalize {a b : Value} (alike : Value.Alike a b) :
    Value.Alike (canonicalize a).1 (canonicalize b).1 := by
  rw [canonicalize_fst, canonicalize_fst, alike.isMap]
  split
  · refine List.foldl_rel ?_ fun shorthand listed _ _ before => alike_expand listed before
    exact List.foldl_rel alike fun rename _ _ _ before => alike_apply rename before
  · exact alike

theorem Value.DistinctKeys.canonicalize {config : Value} (distinct : config.DistinctKeys) :
    (canonicalize config).1.DistinctKeys :=
  Value.alike_self_iff.mp (alike_canonicalize (Value.alike_self distinct))

end BuildConfig
