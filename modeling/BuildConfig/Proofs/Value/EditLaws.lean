import BuildConfig.Proofs.Value.Frame

namespace BuildConfig

theorem Entries.erase_of_missing {α : Type} {entries : Entries α} {key : String} (missing : get? entries key = none) :
    erase entries key = entries := by
  induction entries with
  | nil => rfl
  | cons entry rest ih =>
    obtain ⟨name, value⟩ := entry
    rw [get?] at missing
    split at missing
    · cases missing
    · rename_i different
      rw [erase, if_neg different, ih missing]

namespace Value

variable {config taken left : Value} {path : List String}

/-- Taking in place leaves what taking leaves, and the tree as it is where there is nothing to take. -/
theorem removePath_eq (config : Value) (path : List String) :
    config.removePath path =
      ((config.takePath? path).map Prod.fst, ((config.takePath? path).map Prod.snd).getD config) := by
  induction path generalizing config with
  | nil => cases config <;> rfl
  | cons key rest ih =>
    by_cases isMap : config.isMap = true
    · obtain ⟨entries, rfl⟩ := isMap_iff.mp isMap
      cases rest with
      | nil =>
        rw [removePath, takePath?, get?_map, entries_map]
        cases found : Entries.get? entries key with
        | none => rw [Entries.erase_of_missing found]; rfl
        | some value => rfl
      | cons next others =>
        rw [removePath, takePath?, get?_map, entries_map]
        cases found : Entries.get? entries key with
        | none => rfl
        | some child =>
          simp only [ih child, Option.bind_some]
          cases child.takePath? (next :: others) with
          | none => simp only [Option.map_none, Option.getD_none, Entries.insert_of_get? found]
          | some pair => rfl
    · have nothing : config.takePath? (key :: rest) = none := by
        have noKey := get?_eq_none_of_not_isMap (Bool.eq_false_iff.mpr isMap) key
        cases rest <;> simp only [takePath?, noKey, Option.map_none, Option.bind_none]
      rw [nothing]
      cases config with
      | map => exact absurd rfl isMap
      | _ => rfl

theorem removePath_cases (config : Value) (path : List String) :
    (∃ taken left, config.takePath? path = some (taken, left) ∧ config.removePath path = (some taken, left)) ∨
      (config.takePath? path = none ∧ config.removePath path = (none, config)) := by
  rw [removePath_eq]
  cases config.takePath? path with
  | none => exact Or.inr ⟨rfl, rfl⟩
  | some pair => exact Or.inl ⟨pair.1, pair.2, rfl, rfl⟩

/-- The keys at a place, in their order; there are none where there is no map. -/
def keysAt (config : Value) (place : List String) : List String :=
  ((config.getPath? place).map fun held => Entries.keys held.entries).getD []

theorem keysAt_nil (config : Value) : config.keysAt [] = Entries.keys config.entries := by
  rw [keysAt, getPath?_nil, Option.map_some, Option.getD_some]

theorem keysAt_cons (config : Value) (key : String) (rest : List String) :
    config.keysAt (key :: rest) = ((config.get? key).map fun child => child.keysAt rest).getD [] := by
  rw [keysAt, getPath?_cons]
  cases config.get? key <;> rfl

/-- A map that takes the place of a missing one has no keys either, at any depth. -/
theorem keysAt_getD_empty (found : Option Value) (place : List String) :
    (found.getD empty).keysAt place = (found.map fun child => child.keysAt place).getD [] := by
  cases found with
  | some => rfl
  | none =>
    cases place with
    | nil => exact keysAt_nil empty
    | cons key rest => exact keysAt_cons empty key rest

/-- Where a path leads through a map by a key, what is put at its end leaves the order of the other keys. -/
theorem keysAt_insertPath (config new : Value) (parent : List String) (key : String) (rest : List String) :
    ((config.insertPath (parent ++ key :: rest) new).keysAt parent).filter (· ≠ key) =
      (config.keysAt parent).filter (· ≠ key) := by
  induction parent generalizing config with
  | nil =>
    rw [List.nil_append, insertPath, keysAt_nil, keysAt_nil, entries_map]
    exact (Entries.sameBeside_insert config.entries key _).order _ (by simp)
  | cons name parent ih =>
    rw [List.cons_append, insertPath, keysAt_cons, keysAt_cons, get?_map, Entries.get?_insert_self, Option.map_some,
      Option.getD_some, ih, keysAt_getD_empty]

/-- Where a path leads through a map by a key, what is taken from its end leaves the order of the other keys. -/
theorem keysAt_takePath? {parent : List String} {key : String} {rest : List String}
    (takes : config.takePath? (parent ++ key :: rest) = some (taken, left)) :
    (left.keysAt parent).filter (· ≠ key) = (config.keysAt parent).filter (· ≠ key) := by
  have outside : ∀ touched ∈ [parent ++ key :: rest], ¬touched <+: parent := by
    intro touched listed within
    rw [List.mem_singleton.mp listed] at within
    have bound := within.length_le
    rw [List.length_append, List.length_cons] at bound
    omega
  have others : ∀ names : List String,
      (names.filter fun name => parent ++ [name] ∉ [parent ++ key :: rest]).filter (· ≠ key) =
        names.filter (· ≠ key) := by
    intro names
    rw [List.filter_filter]
    refine List.filter_congr fun name _ => ?_
    by_cases same : name = key <;> simp [same]
  have same := sameAround_takePath? (List.mem_singleton_self _) takes parent outside
  rw [keysAt, keysAt]
  generalize config.getPath? parent = before, left.getPath? parent = after at same
  cases same with
  | none => rfl
  | some same =>
    rw [Option.map_some, Option.getD_some, Option.map_some, Option.getD_some, ← others, same.2, others]

/-- What is put at the end of a path or taken from it is found again, or no longer, and nothing else is: neither values
apart from the path nor the order of the other keys in the maps on the way. -/
structure EditLaws (config : Value) (path : List String) (new other : Value) : Prop where
  inserted : (config.insertPath path new).getPath? path = some new
  replaced : (config.insertPath path new).insertPath path other = config.insertPath path other
  removed : path ≠ [] →
    (config.removePath path).1 = config.getPath? path ∧ (config.removePath path).2.getPath? path = none
  unchanged : (config.removePath path).1 = none → (config.removePath path).2 = config
  apart : ∀ place, Apart path place →
    (config.insertPath path new).getPath? place = config.getPath? place ∧
      (config.removePath path).2.getPath? place = config.getPath? place
  order : ∀ parent key rest, path = parent ++ key :: rest →
    ((config.insertPath path new).keysAt parent).filter (· ≠ key) = (config.keysAt parent).filter (· ≠ key) ∧
      ((config.removePath path).2.keysAt parent).filter (· ≠ key) = (config.keysAt parent).filter (· ≠ key)

/-- A path leads to one place in each tree, for reading, writing and taking alike. -/
theorem edits_obey_lens_laws (distinct : config.DistinctKeys) (path : List String) (new other : Value) :
    EditLaws config path new other := by
  have inserted := getPath?_insertPath_self config new path
  have replaced := insertPath_insertPath_self config new other path
  have insertOrder (parent : List String) (key : String) (rest : List String) (through : path = parent ++ key :: rest) :
      ((config.insertPath path new).keysAt parent).filter (· ≠ key) = (config.keysAt parent).filter (· ≠ key) :=
    through ▸ keysAt_insertPath config new parent key rest
  rcases removePath_cases config path with ⟨taken, left, takes, removes⟩ | ⟨nothing, removes⟩
  · have held := getPath?_of_takePath? takes
    refine ⟨inserted, replaced, ?_, ?_, ?_, ?_⟩ <;> rw [removes]
    · exact fun _ => ⟨held.symm, getPath?_takePath?_self distinct takes⟩
    · exact fun none => by cases none
    · exact fun place apart =>
        ⟨getPath?_insertPath_of_apart apart config new, getPath?_takePath?_of_apart apart takes⟩
    · exact fun parent key rest through =>
        ⟨insertOrder parent key rest through, keysAt_takePath? (through ▸ takes)⟩
  · have absent (nonempty : path ≠ []) : config.getPath? path = none := by
      cases held : config.getPath? path with
      | none => rfl
      | some value =>
        obtain ⟨left, takes⟩ := exists_takePath?_of_getPath? nonempty held
        rw [nothing] at takes
        cases takes
    refine ⟨inserted, replaced, ?_, ?_, ?_, ?_⟩ <;> rw [removes]
    · exact fun nonempty => ⟨(absent nonempty).symm, absent nonempty⟩
    · exact fun _ => rfl
    · exact fun place apart => ⟨getPath?_insertPath_of_apart apart config new, rfl⟩
    · exact fun parent key rest through => ⟨insertOrder parent key rest through, rfl⟩

/-- A path through a text, which a map takes the place of but from which there is nothing to take, and the path to this
text. -/
theorem edits_obey_lens_laws_text :
    let config : Value := .map [("port", .null), ("npm", .map [("esModules", .bool true), ("umd", .string "Foo")])]
    let edited := config.insertPath ["npm", "umd", "global"] (.string "Bar")
    let remaining := (config.removePath ["npm", "umd"]).2
    config.DistinctKeys ∧ edited.getPath? ["npm", "umd", "global"] = some (.string "Bar") ∧
      edited.getPath? ["npm", "esModules"] = some (.bool true) ∧
      (edited.keysAt ["npm"]).filter (· ≠ "umd") = ["esModules"] ∧
      (config.removePath ["npm", "umd", "global"]).2 = config ∧
      (config.removePath ["npm", "umd"]).1 = some (.string "Foo") ∧ remaining.getPath? ["npm", "umd"] = none ∧
      (remaining.keysAt []).filter (· ≠ "npm") = ["port"] := by
  intro config edited remaining
  have distinct : config.DistinctKeys := by decide
  have beyond := edits_obey_lens_laws distinct ["npm", "umd", "global"] (.string "Bar") .null
  have laws := edits_obey_lens_laws distinct ["npm", "umd"] .null .null
  obtain ⟨taken, gone⟩ := laws.removed (by simp)
  exact ⟨distinct, beyond.inserted, (beyond.apart ["npm", "esModules"] (by decide)).1,
    (beyond.order ["npm"] "umd" ["global"] rfl).1, beyond.unchanged rfl, taken, gone,
    (laws.order [] "npm" ["umd"] rfl).2⟩

end Value

end BuildConfig
