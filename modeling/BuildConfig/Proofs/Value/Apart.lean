import BuildConfig.Proofs.Value.Trees

namespace BuildConfig

/-- Neither of two paths leads through the end of the other. -/
def Apart (path place : List String) : Prop :=
  ¬path <+: place ∧ ¬place <+: path

instance (path place : List String) : Decidable (Apart path place) :=
  inferInstanceAs (Decidable (_ ∧ _))

theorem not_apart_nil {place : List String} : ¬Apart [] place :=
  fun apart => apart.1 List.nil_prefix

theorem Apart.ne_nil {path place : List String} (apart : Apart path place) : place ≠ [] := by
  rintro rfl
  exact apart.2 List.nil_prefix

theorem Apart.symm {path place : List String} (apart : Apart path place) : Apart place path :=
  And.symm apart

theorem apart_cons_iff {key name : String} {path place : List String} :
    Apart (key :: path) (name :: place) ↔ key ≠ name ∨ Apart path place := by
  simp only [Apart, List.cons_prefix_cons]
  by_cases same : key = name
  · subst name
    simp
  · simp [same, Ne.symm same]

namespace Value

theorem getPath?_empty {place : List String} (nonempty : place ≠ []) : empty.getPath? place = none := by
  obtain ⟨key, rest, rfl⟩ := List.exists_cons_of_ne_nil nonempty
  rw [getPath?_cons]
  rfl

/-- Nothing is found in an empty map that takes the place of a missing one. -/
theorem getPath?_getD_empty (found : Option Value) {place : List String} (nonempty : place ≠ []) :
    (found.getD empty).getPath? place = found.bind fun child => child.getPath? place := by
  cases found with
  | none => exact getPath?_empty nonempty
  | some => rfl

@[simp] theorem getPath?_insertPath_self (config new : Value) (path : List String) :
    (config.insertPath path new).getPath? path = some new := by
  induction path generalizing config with
  | nil => rw [insertPath, getPath?_nil]
  | cons key rest ih =>
    rw [insertPath, getPath?_cons, get?_map, Entries.get?_insert_self, Option.bind_some]
    exact ih _

/-- What is put at a path is not seen at places apart from it. -/
theorem getPath?_insertPath_of_apart {path place : List String} (apart : Apart path place) (config new : Value) :
    (config.insertPath path new).getPath? place = config.getPath? place := by
  induction path generalizing config place with
  | nil => exact (not_apart_nil apart).elim
  | cons key rest ih =>
    obtain ⟨name, more, rfl⟩ := List.exists_cons_of_ne_nil apart.ne_nil
    rw [insertPath, getPath?_cons, getPath?_cons, get?_map, Entries.get?_insert]
    by_cases same : key = name
    · subst name
      have deeper : Apart rest more := (apart_cons_iff.mp apart).resolve_left (by simp)
      rw [if_pos rfl, Option.bind_some, ih deeper, getPath?_getD_empty _ deeper.ne_nil]
    · rw [if_neg same]
      rfl

/-- What is taken from a path is not missing at places apart from it. -/
theorem getPath?_takePath?_of_apart {path place : List String} (apart : Apart path place) {config taken left : Value}
    (takes : config.takePath? path = some (taken, left)) : left.getPath? place = config.getPath? place := by
  induction path generalizing config taken left place with
  | nil => exact (not_apart_nil apart).elim
  | cons key rest ih =>
    obtain ⟨name, more, rfl⟩ := List.exists_cons_of_ne_nil apart.ne_nil
    cases rest with
    | nil =>
      have other := (apart_cons_iff.mp apart).resolve_right not_apart_nil
      rw [takePath?] at takes
      obtain ⟨_, _, same⟩ := Option.map_eq_some_iff.mp takes
      cases same
      rw [getPath?_cons, getPath?_cons, get?_map, Entries.get?_erase_of_ne _ other]
      rfl
    | cons next others =>
      rw [takePath?] at takes
      obtain ⟨child, atKey, deeperTakes⟩ := Option.bind_eq_some_iff.mp takes
      obtain ⟨⟨_, inner⟩, innerTakes, same⟩ := Option.map_eq_some_iff.mp deeperTakes
      cases same
      rw [getPath?_cons, getPath?_cons, get?_map, Entries.get?_insert]
      by_cases same : key = name
      · subst name
        have deeper := (apart_cons_iff.mp apart).resolve_left (by simp)
        rw [if_pos rfl, atKey, Option.bind_some, Option.bind_some, ih deeper innerTakes]
      · rw [if_neg same]
        rfl

theorem exists_of_isSome_getPath?_cons {config : Value} {key : String} {rest : List String}
    (held : (config.getPath? (key :: rest)).isSome = true) :
    ∃ child, Entries.get? config.entries key = some child ∧ (child.getPath? rest).isSome = true := by
  obtain ⟨value, found⟩ := Option.isSome_iff_exists.mp held
  rw [getPath?_cons] at found
  obtain ⟨child, atKey, deeper⟩ := Option.bind_eq_some_iff.mp found
  exact ⟨child, atKey, Option.isSome_iff_exists.mpr ⟨value, deeper⟩⟩

/-- Edits at places apart from each other can change places. The first place must be taken already: of
two new keys the one that is put in first stays first. -/
theorem insertPath_comm {path place : List String} (apart : Apart path place) {config : Value}
    (held : (config.getPath? path).isSome = true) (new other : Value) :
    (config.insertPath path new).insertPath place other = (config.insertPath place other).insertPath path new := by
  induction path generalizing config place with
  | nil => exact (not_apart_nil apart).elim
  | cons key rest ih =>
    obtain ⟨name, more, rfl⟩ := List.exists_cons_of_ne_nil apart.ne_nil
    obtain ⟨child, atKey, deeperHeld⟩ := exists_of_isSome_getPath?_cons held
    simp only [insertPath, entries_map, get?, Entries.get?_insert, atKey, Option.getD_some]
    by_cases same : key = name
    · subst name
      have deeper := (apart_cons_iff.mp apart).resolve_left (by simp)
      simp only [if_true, Option.getD_some, atKey, Entries.insert_insert_self, ih deeper deeperHeld]
    · have taken := Option.isSome_iff_exists.mpr ⟨child, atKey⟩
      simp only [if_neg same, if_neg (Ne.symm same), Option.getD_some]
      rw [Entries.insert_insert_comm same taken]

/-- What is taken from a place is the same after an edit at a place apart from it, and so is what is
left, but for the edit. -/
theorem takePath?_insertPath {path place : List String} (apart : Apart path place) {config : Value}
    (held : (config.getPath? path).isSome = true) (new : Value) :
    (config.insertPath path new).takePath? place =
      (config.takePath? place).map fun (taken, left) => (taken, left.insertPath path new) := by
  induction path generalizing config place with
  | nil => exact (not_apart_nil apart).elim
  | cons key rest ih =>
    obtain ⟨name, more, rfl⟩ := List.exists_cons_of_ne_nil apart.ne_nil
    obtain ⟨child, atKey, deeperHeld⟩ := exists_of_isSome_getPath?_cons held
    cases more with
    | nil =>
      have other := (apart_cons_iff.mp apart).resolve_right fun deeper => not_apart_nil deeper.symm
      simp only [takePath?, insertPath, entries_map, get?, Entries.get?_insert_of_ne _ _ other, Option.map_map,
        Function.comp_def, Entries.get?_erase_of_ne _ (Ne.symm other), Entries.erase_insert_of_ne _ other]
    | cons next others =>
      by_cases same : key = name
      · subst name
        have deeper := (apart_cons_iff.mp apart).resolve_left (by simp)
        simp only [takePath?, insertPath, entries_map, get?, Entries.get?_insert_self, atKey, Option.getD_some,
          Option.bind_some, ih deeper deeperHeld, Option.map_map, Function.comp_def, Entries.insert_insert_self]
      · simp only [takePath?, insertPath, entries_map, get?, Entries.get?_insert_of_ne _ _ same]
        cases atName : Entries.get? config.entries name with
        | none => rfl
        | some inner =>
          have taken := Option.isSome_iff_exists.mpr ⟨inner, atName⟩
          simp only [Option.bind_some, Option.map_map, Function.comp_def, entries_map,
            Entries.insert_insert_comm (Ne.symm same) taken, Entries.get?_insert_of_ne _ _ (Ne.symm same)]

end Value

end BuildConfig
