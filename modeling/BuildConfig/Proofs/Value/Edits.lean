import BuildConfig.Proofs.Value.Apart
import Mathlib.Data.List.Basic

namespace BuildConfig.Value

variable {config taken left : Value} {parent path : List String} {key : String} {entries : Entries Value}

/-- An edit beyond the end of a path is an edit of what is there. -/
theorem insertPath_append {child : Value} (held : config.getPath? parent = some child) (more : List String)
    (new : Value) : config.insertPath (parent ++ more) new = config.insertPath parent (child.insertPath more new) := by
  induction parent generalizing config with
  | nil =>
    rw [getPath?_nil, Option.some.injEq] at held
    rw [held, List.nil_append, insertPath]
  | cons name rest ih =>
    rw [getPath?_cons] at held
    obtain ⟨next, atName, below⟩ := Option.bind_eq_some_iff.mp held
    rw [List.cons_append, insertPath, insertPath, atName, Option.getD_some, ih below]

/-- Of two edits at a place the first one is lost. -/
theorem insertPath_insertPath_self (config first new : Value) (path : List String) :
    (config.insertPath path first).insertPath path new = config.insertPath path new := by
  induction path generalizing config with
  | nil => rfl
  | cons key rest ih =>
    simp only [insertPath, get?_map, entries_map, Entries.get?_insert_self, Option.getD_some, ih,
      Entries.insert_insert_self]

/-- Putting back what is there changes nothing. -/
theorem insertPath_of_getPath? {value : Value} (held : config.getPath? path = some value) :
    config.insertPath path value = config := by
  induction path generalizing config with
  | nil =>
    rw [getPath?_nil, Option.some.injEq] at held
    rw [insertPath, held]
  | cons key rest ih =>
    have isMap := isMap_of_getPath?_eq_some (by simp) held
    obtain ⟨entries, rfl⟩ := isMap_iff.mp isMap
    rw [getPath?_cons, get?_map] at held
    obtain ⟨child, atKey, below⟩ := Option.bind_eq_some_iff.mp held
    rw [insertPath, get?_map, entries_map, atKey, Option.getD_some, ih below, Entries.insert_of_get? atKey]

/-- What is put under the last key of a path is put into the map that the other keys lead to. -/
theorem insertPath_concat (held : config.getPath? parent = some (.map entries)) (key : String) (new : Value) :
    config.insertPath (parent ++ [key]) new = config.insertPath parent (.map (Entries.insert entries key new)) :=
  insertPath_append held [key] new

theorem takePath?_cons {rest : List String} (further : rest ≠ []) :
    config.takePath? (key :: rest) = (config.get? key).bind fun child =>
      (child.takePath? rest).map fun (taken, left) => (taken, .map (Entries.insert config.entries key left)) := by
  obtain ⟨next, others, rfl⟩ := List.exists_cons_of_ne_nil further
  rw [takePath?]

/-- What is taken from the last key of a path is taken out of the map that the other keys lead to. -/
theorem takePath?_concat_eq_some_iff : config.takePath? (parent ++ [key]) = some (taken, left) ↔
    ∃ entries, config.getPath? parent = some (.map entries) ∧ Entries.get? entries key = some taken ∧
      config.insertPath parent (.map (Entries.erase entries key)) = left := by
  induction parent generalizing config left with
  | nil =>
    rw [List.nil_append, takePath?, Option.map_eq_some_iff, getPath?_nil]
    constructor
    · rintro ⟨_, found, same⟩
      cases same
      obtain ⟨entries, rfl⟩ := isMap_iff.mp (isMap_of_get?_eq_some found)
      exact ⟨entries, rfl, found, rfl⟩
    · rintro ⟨entries, isMap, found, rfl⟩
      cases Option.some.inj isMap
      exact ⟨taken, found, rfl⟩
  | cons name rest ih =>
    rw [List.cons_append, takePath?_cons (by simp), getPath?_cons]
    cases atName : config.get? name with
    | none => simp
    | some child =>
      simp only [Option.bind_some, Option.map_eq_some_iff, Prod.exists, Prod.mk.injEq, insertPath, atName,
        Option.getD_some]
      constructor
      · rintro ⟨_, inner, takes, rfl, rfl⟩
        obtain ⟨entries, below, found, rfl⟩ := ih.mp takes
        exact ⟨entries, below, found, rfl⟩
      · rintro ⟨entries, below, found, rfl⟩
        exact ⟨taken, _, ih.mpr ⟨entries, below, found, rfl⟩, rfl, rfl⟩

theorem ne_nil_of_takePath? (takes : config.takePath? path = some (taken, left)) : path ≠ [] := by
  rintro rfl
  cases takes

theorem getPath?_concat (value : Value) (parent : List String) (key : String) :
    value.getPath? (parent ++ [key]) = (value.getPath? parent).bind fun holder => holder.get? key := by
  simp only [getPath?_append, getPath?_single]

theorem getPath?_of_takePath? (takes : config.takePath? path = some (taken, left)) :
    config.getPath? path = some taken := by
  obtain ⟨parent, key, rfl⟩ := (List.eq_nil_or_concat' path).resolve_left (ne_nil_of_takePath? takes)
  obtain ⟨entries, atParent, found, _⟩ := takePath?_concat_eq_some_iff.mp takes
  rw [getPath?_concat, atParent, Option.bind_some, get?_map, found]

theorem exists_takePath?_of_getPath? (nonempty : path ≠ []) (held : config.getPath? path = some taken) :
    ∃ left, config.takePath? path = some (taken, left) := by
  obtain ⟨parent, key, rfl⟩ := (List.eq_nil_or_concat' path).resolve_left nonempty
  rw [getPath?_concat] at held
  obtain ⟨holder, atParent, found⟩ := Option.bind_eq_some_iff.mp held
  obtain ⟨entries, rfl⟩ := isMap_iff.mp (isMap_of_get?_eq_some found)
  exact ⟨_, takePath?_concat_eq_some_iff.mpr ⟨entries, atParent, found, rfl⟩⟩

/-- Once it is taken, nothing is left at a place. -/
theorem getPath?_takePath?_self (distinct : config.DistinctKeys)
    (takes : config.takePath? path = some (taken, left)) : left.getPath? path = none := by
  obtain ⟨parent, key, rfl⟩ := (List.eq_nil_or_concat' path).resolve_left (ne_nil_of_takePath? takes)
  obtain ⟨entries, atParent, _, rfl⟩ := takePath?_concat_eq_some_iff.mp takes
  have inside : Entries.Distinct entries := (distinct.getPath? atParent).entries
  rw [getPath?_concat, getPath?_insertPath_self, Option.bind_some, get?_map, Entries.get?_erase_self inside]

end BuildConfig.Value
