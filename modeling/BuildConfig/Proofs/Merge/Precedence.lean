import BuildConfig.Proofs.Merge.Lookup

namespace BuildConfig.Value

/-- The value that a tree holds at a place, where a null counts as nothing. -/
def at? (tree : Value) (place : List String) : Option Value :=
  notNull? (tree.getPath? place)

/-- A tree decides a place if it holds a value there, or one on the way there that is no map. -/
def Decides (tree : Value) (place : List String) : Prop :=
  (∃ value, tree.at? place = some value) ∨
    ∃ outer value, outer <+: place ∧ outer ≠ place ∧ tree.at? outer = some value ∧ value.isMap = false

theorem getPath?_of_at? {tree value : Value} {place : List String} (held : tree.at? place = some value) :
    tree.getPath? place = some value :=
  (notNull?_eq_some_iff.mp held).1

theorem at?_nil (tree : Value) : tree.at? [] = notNull? (some tree) := by
  rw [at?, getPath?_nil]

theorem at?_cons (tree : Value) (key : String) (rest : List String) :
    tree.at? (key :: rest) = (tree.get? key).bind fun child => child.at? rest := by
  rw [at?, getPath?_cons]
  cases tree.get? key <;> rfl

theorem null_at? (place : List String) : Value.null.at? place = none := by
  cases place with
  | nil => rfl
  | cons key rest => rw [at?_cons]; rfl

theorem isMap_of_at?_cons {tree value : Value} {key : String} {rest : List String}
    (held : tree.at? (key :: rest) = some value) : tree.isMap = true := by
  rw [at?_cons] at held
  obtain ⟨child, found, _⟩ := Option.bind_eq_some_iff.mp held
  exact isMap_of_get?_eq_some found

/-- Nothing can be seen beyond a value that is no map. -/
theorem at?_eq_none_of_cut {tree value : Value} {outer place : List String} (within : outer <+: place)
    (proper : outer ≠ place) (held : tree.at? outer = some value) (notMap : value.isMap = false) :
    tree.at? place = none := by
  obtain ⟨more, rfl⟩ := within
  have some : more ≠ [] := by
    rintro rfl
    exact proper (List.append_nil outer).symm
  obtain ⟨key, rest, rfl⟩ := List.exists_cons_of_ne_nil some
  rw [at?, getPath?_append, getPath?_of_at? held, Option.bind_some, getPath?_cons,
    get?_eq_none_of_not_isMap notMap]
  rfl

theorem at?_eq_none_of_undecided {tree : Value} {place : List String} (undecided : ¬tree.Decides place) :
    tree.at? place = none := by
  cases held : tree.at? place with
  | none => rfl
  | some value => exact (undecided (Or.inl ⟨value, held⟩)).elim

theorem decides_nil_iff {tree : Value} : tree.Decides [] ↔ tree ≠ .null := by
  constructor
  · rintro (⟨value, held⟩ | ⟨outer, _, within, proper, _⟩)
    · rw [at?_nil] at held
      obtain ⟨same, notNull⟩ := notNull?_eq_some_iff.mp held
      exact Option.some.inj same ▸ notNull
    · exact absurd (List.prefix_nil.mp within) proper
  · intro notNull
    exact Or.inl ⟨tree, by rw [at?_nil, notNull?_some notNull]⟩

theorem decides_cons_iff {tree : Value} {key : String} {rest : List String} :
    tree.Decides (key :: rest) ↔
      (tree ≠ .null ∧ tree.isMap = false) ∨ ∃ child, tree.get? key = some child ∧ child.Decides rest := by
  constructor
  · rintro (⟨value, held⟩ | ⟨outer, value, within, proper, held, notMap⟩)
    · rw [at?_cons] at held
      obtain ⟨child, found, below⟩ := Option.bind_eq_some_iff.mp held
      exact Or.inr ⟨child, found, Or.inl ⟨value, below⟩⟩
    · cases outer with
      | nil =>
        rw [at?_nil] at held
        obtain ⟨same, notNull⟩ := notNull?_eq_some_iff.mp held
        cases Option.some.inj same
        exact Or.inl ⟨notNull, notMap⟩
      | cons first more =>
        obtain ⟨rfl, deeper⟩ := List.cons_prefix_cons.mp within
        rw [at?_cons] at held
        obtain ⟨child, found, below⟩ := Option.bind_eq_some_iff.mp held
        exact Or.inr ⟨child, found, Or.inr ⟨more, value, deeper, by simpa using proper, below, notMap⟩⟩
  · rintro (⟨notNull, notMap⟩ | ⟨child, found, ⟨value, held⟩ | ⟨outer, value, within, proper, held, notMap⟩⟩)
    · exact Or.inr ⟨[], tree, List.nil_prefix, by simp, by rw [at?_nil, notNull?_some notNull], notMap⟩
    · exact Or.inl ⟨value, by rw [at?_cons, found, Option.bind_some, held]⟩
    · refine Or.inr ⟨key :: outer, value, List.cons_prefix_cons.mpr ⟨rfl, within⟩, by simpa using proper, ?_, notMap⟩
      rw [at?_cons, found, Option.bind_some, held]

/-- Whether a tree decides a place, found out on the way there. -/
def decides (tree : Value) : List String → Bool
  | [] => !tree.isNull
  | key :: rest => (!tree.isNull && !tree.isMap) || (tree.get? key).any fun child => child.decides rest

theorem decides_iff {tree : Value} {place : List String} : tree.decides place = true ↔ tree.Decides place := by
  induction place generalizing tree with
  | nil => rw [decides, decides_nil_iff, Bool.not_eq_true', isNull_false_iff]
  | cons key rest ih =>
    rw [decides, decides_cons_iff, Bool.or_eq_true, Bool.and_eq_true, Bool.not_eq_true', Bool.not_eq_true',
      isNull_false_iff, Option.any_eq_true]
    simp only [ih]

instance (tree : Value) (place : List String) : Decidable (tree.Decides place) :=
  decidable_of_iff _ decides_iff

theorem isMap_of_undecided {tree : Value} {key : String} {rest : List String}
    (undecided : ¬tree.Decides (key :: rest)) (notNull : tree ≠ .null) : tree.isMap = true := by
  cases isMap : tree.isMap with
  | true => rfl
  | false => exact (undecided (decides_cons_iff.mpr (Or.inl ⟨notNull, isMap⟩))).elim

section Steps

variable (strategy : MergeStrategy) (path : List String)

/-- One key deeper into a merge with a map. -/
theorem at?_mergeAt_cons (base : Value) {overlay : Value} (distinct : overlay.DistinctKeys)
    (isMap : overlay.isMap = true) (key : String) (rest : List String) :
    (mergeAt strategy path base overlay).at? (key :: rest) =
      (mergeUnder strategy (path ++ [key]) (base.get? key) (overlay.get? key)).bind fun child => child.at? rest := by
  obtain ⟨upper, rfl⟩ := isMap_iff.mp isMap
  have distinctUpper : Entries.Distinct upper := distinct.entries
  rw [at?_cons]
  cases baseMap : base.isMap with
  | true =>
    obtain ⟨lower, rfl⟩ := isMap_iff.mp baseMap
    rw [mergeAt_map, get?_map, get?_mergeEntries strategy path lower distinctUpper]
    rfl
  | false =>
    rw [mergeAt_covered strategy path (by simp) (by simp [baseMap]) (fun _ => rfl),
      get?_eq_none_of_not_isMap baseMap]
    cases found : (Value.map upper).get? key with
    | none => rfl
    | some child =>
      by_cases null : child = .null
      · rw [null, mergeUnder_null, Option.bind_some, null_at?]
        rfl
      · rw [mergeUnder_some strategy _ none null]
        rfl

/-- Where the upper tree decides nothing, a merge shows what the lower one does. -/
theorem at?_mergeAt_of_undecided {base overlay : Value} {place : List String} (distinct : overlay.DistinctKeys)
    (undecided : ¬overlay.Decides place) : (mergeAt strategy path base overlay).at? place = base.at? place := by
  by_cases null : overlay = .null
  · rw [null, mergeAt_null]
  induction place generalizing base overlay path with
  | nil => exact (undecided (decides_nil_iff.mpr null)).elim
  | cons key rest ih =>
    rw [at?_mergeAt_cons strategy path base distinct (isMap_of_undecided undecided null), at?_cons]
    cases found : overlay.get? key with
    | none => rw [mergeUnder_none]
    | some child =>
      by_cases childNull : child = .null
      · rw [childNull, mergeUnder_null]
      have childUndecided : ¬child.Decides rest := fun decides =>
        undecided (decides_cons_iff.mpr (Or.inr ⟨child, found, decides⟩))
      rw [mergeUnder_some strategy _ _ childNull]
      cases base.get? key with
      | none => exact at?_eq_none_of_undecided childUndecided
      | some existing => exact ih (path ++ [key]) (distinct.get? found) childUndecided childNull

/-- What the upper tree of a merge holds can be seen in the result: a map as a map, and every other
value as it is, unless arrays are appended there. -/
theorem at?_mergeAt_of_some {base overlay value : Value} {place : List String} (distinct : overlay.DistinctKeys)
    (held : overlay.at? place = some value) :
    ∃ merged, (mergeAt strategy path base overlay).at? place = some merged ∧ merged.isMap = value.isMap ∧
      (value.isMap = false → strategy.concatenatesAt (path ++ place) = false → merged = value) := by
  induction place generalizing base overlay path with
  | nil =>
    rw [at?_nil] at held
    obtain ⟨same, notNull⟩ := notNull?_eq_some_iff.mp held
    cases Option.some.inj same
    rw [at?_nil, List.append_nil]
    by_cases maps : base.isMap = true ∧ value.isMap = true
    · obtain ⟨lower, rfl⟩ := isMap_iff.mp maps.1
      obtain ⟨upper, rfl⟩ := isMap_iff.mp maps.2
      rw [mergeAt_map]
      exact ⟨_, notNull?_some (by simp), rfl, by simp [isMap]⟩
    by_cases arrays : base.isArray = true ∧ value.isArray = true
    · obtain ⟨lower, rfl⟩ := isArray_iff.mp arrays.1
      obtain ⟨upper, rfl⟩ := isArray_iff.mp arrays.2
      rw [mergeAt_array]
      refine ⟨_, notNull?_some (by simp), rfl, fun _ replaces => ?_⟩
      rw [replaces, if_neg Bool.false_ne_true]
    · rw [mergeAt_covered strategy path notNull (by simpa using maps) (by simpa using arrays)]
      exact ⟨value, notNull?_some notNull, rfl, fun _ _ => rfl⟩
  | cons key rest ih =>
    rw [at?_mergeAt_cons strategy path base distinct (isMap_of_at?_cons held)]
    rw [at?_cons] at held
    obtain ⟨child, found, below⟩ := Option.bind_eq_some_iff.mp held
    have childNotNull : child ≠ .null := by
      rintro rfl
      rw [null_at?] at below
      cases below
    rw [found, mergeUnder_some strategy _ _ childNotNull, Option.bind_some]
    cases base.get? key with
    | none => exact ⟨value, below, rfl, fun _ _ => rfl⟩
    | some existing =>
      have deeper := @ih (path ++ [key]) existing child (distinct.get? found) below
      rwa [List.append_assoc, List.singleton_append] at deeper

/-- What the upper tree of a merge holds is seen unchanged where the lower one shows nothing. -/
theorem at?_mergeAt_over_nothing {base overlay value : Value} {place : List String} (distinct : overlay.DistinctKeys)
    (nothing : base.at? place = none) (held : overlay.at? place = some value) :
    (mergeAt strategy path base overlay).at? place = some value := by
  induction place generalizing base overlay path with
  | nil =>
    have null : base = .null := by simpa [at?_nil, notNull?_eq_none_iff] using nothing
    rw [null, mergeAt_over_null]
    exact held
  | cons key rest ih =>
    rw [at?_mergeAt_cons strategy path base distinct (isMap_of_at?_cons held)]
    rw [at?_cons] at held nothing
    obtain ⟨child, found, below⟩ := Option.bind_eq_some_iff.mp held
    have childNotNull : child ≠ .null := by
      rintro rfl
      rw [null_at?] at below
      cases below
    rw [found, mergeUnder_some strategy _ _ childNotNull, Option.bind_some]
    cases atKey : base.get? key with
    | none => exact below
    | some existing =>
      rw [atKey, Option.bind_some] at nothing
      exact ih (path ++ [key]) (distinct.get? found) nothing below

end Steps

section Layers

variable {strategy : MergeStrategy} {place : List String}

/-- Layers that decide nothing change nothing that can be seen. -/
theorem at?_foldl_of_undecided {layers : List Value} (distinct : ∀ layer ∈ layers, layer.DistinctKeys)
    (undecided : ∀ layer ∈ layers, ¬layer.Decides place) (base : Value) :
    (layers.foldl (mergeWith strategy) base).at? place = base.at? place := by
  induction layers generalizing base with
  | nil => rfl
  | cons layer rest ih =>
    rw [List.foldl_cons, ih (fun other listed => distinct other (List.mem_cons_of_mem _ listed))
      (fun other listed => undecided other (List.mem_cons_of_mem _ listed))]
    exact at?_mergeAt_of_undecided strategy [] (distinct layer (List.mem_cons_self ..))
      (undecided layer (List.mem_cons_self ..))

/-- The last of the layers that decide a place settles what is seen there, whatever lies below. -/
theorem at?_foldl_of_decided {below above : List Value} {layer : Value}
    (distinct : ∀ tree ∈ layer :: above, tree.DistinctKeys)
    (undecided : ∀ higher ∈ above, ¬higher.Decides place) (decides : layer.Decides place)
    (replaces : strategy.concatenatesAt place = false) (base : Value) :
    Option.Rel SameOutside (layer.at? place)
      (((below ++ layer :: above).foldl (mergeWith strategy) base).at? place) := by
  rw [List.foldl_append, List.foldl_cons,
    at?_foldl_of_undecided (fun tree listed => distinct tree (List.mem_cons_of_mem _ listed)) undecided]
  generalize below.foldl (mergeWith strategy) base = lower
  have distinctLayer := distinct layer (List.mem_cons_self ..)
  rcases decides with ⟨value, held⟩ | ⟨outer, value, within, proper, held, notMap⟩
  · obtain ⟨merged, seen, sameKind, exactly⟩ :=
      @at?_mergeAt_of_some strategy [] lower layer value place distinctLayer held
    rw [held, mergeWith, seen]
    cases isMap : value.isMap with
    | true => exact .some (Or.inr ⟨isMap, sameKind.trans isMap⟩)
    | false => exact .some (Or.inl (exactly isMap replaces).symm)
  · obtain ⟨merged, seen, sameKind, _⟩ :=
      @at?_mergeAt_of_some strategy [] lower layer value outer distinctLayer held
    rw [at?_eq_none_of_cut within proper held notMap,
      mergeWith, at?_eq_none_of_cut within proper seen (sameKind.trans notMap)]
    exact .none

end Layers

end BuildConfig.Value
