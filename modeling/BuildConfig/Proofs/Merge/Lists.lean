import BuildConfig.Proofs.Merge.Paths

namespace BuildConfig.Value

/-- A tree has an array at a place, or nothing. On the way there it has maps, or nothing any more. Nulls
count as nothing. -/
def ListsAt (tree : Value) : List String → Prop
  | [] => tree = .null ∨ tree.isArray = true
  | key :: rest => tree = .null ∨ (tree.isMap = true ∧ ∀ child, tree.get? key = some child → child.ListsAt rest)

def decideListsAt (tree : Value) : (place : List String) → Decidable (tree.ListsAt place)
  | [] => decidable_of_iff (tree.isNull = true ∨ tree.isArray = true) (or_congr_left isNull_iff)
  | key :: rest =>
    match found : tree.get? key with
    | none => decidable_of_iff (tree.isNull = true ∨ tree.isMap = true) (by simp [ListsAt, isNull_iff, found])
    | some child =>
      have := child.decideListsAt rest
      decidable_of_iff (tree.isNull = true ∨ (tree.isMap = true ∧ child.ListsAt rest))
        (by simp [ListsAt, isNull_iff, found])

instance (tree : Value) (place : List String) : Decidable (tree.ListsAt place) :=
  tree.decideListsAt place

/-- Arrays one after the other, if there is any. -/
def concatenated : List Value → Option Value
  | [] => none
  | arrays => some (.array (arrays.flatMap fun array => array.asArray?.getD []))

theorem listsAt_empty {place : List String} (nonempty : place ≠ []) : Value.empty.ListsAt place := by
  obtain ⟨key, rest, rfl⟩ := List.exists_cons_of_ne_nil nonempty
  exact Or.inr ⟨rfl, fun _ found => by cases found⟩

theorem ListsAt.isArray_of_at? {tree value : Value} {place : List String} (lists : tree.ListsAt place)
    (held : tree.at? place = some value) : value.isArray = true := by
  induction place generalizing tree with
  | nil =>
    rw [at?_nil] at held
    obtain ⟨same, notNull⟩ := notNull?_eq_some_iff.mp held
    cases Option.some.inj same
    exact lists.resolve_left notNull
  | cons key rest ih =>
    rw [at?_cons] at held
    obtain ⟨child, found, below⟩ := Option.bind_eq_some_iff.mp held
    rcases lists with rfl | ⟨_, inside⟩
    · cases found
    · exact ih (inside child found) below

theorem ListsAt.concatenated_at? {tree : Value} {place : List String} (lists : tree.ListsAt place) :
    concatenated (tree.at? place).toList = tree.at? place := by
  cases held : tree.at? place with
  | none => rfl
  | some value =>
    obtain ⟨items, rfl⟩ := isArray_iff.mp (lists.isArray_of_at? held)
    simp [concatenated, asArray?]

/-- Where there are maps all the way, a tree without an array decides nothing. -/
theorem ListsAt.undecided {tree : Value} {place : List String} (lists : tree.ListsAt place)
    (nothing : tree.at? place = none) : ¬tree.Decides place := by
  induction place generalizing tree with
  | nil =>
    rw [decides_nil_iff]
    rw [at?_nil, notNull?_eq_none_iff] at nothing
    exact fun notNull => notNull (nothing tree rfl)
  | cons key rest ih =>
    rw [decides_cons_iff]
    rw [at?_cons] at nothing
    rintro (⟨notNull, notMap⟩ | ⟨child, found, decides⟩)
    · obtain ⟨isMap, _⟩ := lists.resolve_left notNull
      rw [notMap] at isMap
      cases isMap
    · rw [found, Option.bind_some] at nothing
      rcases lists with rfl | ⟨_, inside⟩
      · cases found
      · exact ih (inside child found) nothing decides

section Steps

variable (strategy : MergeStrategy) (path : List String)

theorem ListsAt.mergeAt {base overlay : Value} {place : List String} (below : base.ListsAt place)
    (above : overlay.ListsAt place) (distinct : overlay.DistinctKeys) :
    (mergeAt strategy path base overlay).ListsAt place := by
  induction place generalizing base overlay path with
  | nil =>
    rcases above with rfl | isArray
    · rwa [mergeAt_null]
    rcases below with rfl | baseArray
    · rw [mergeAt_over_null]
      exact Or.inr isArray
    obtain ⟨lower, rfl⟩ := isArray_iff.mp baseArray
    obtain ⟨upper, rfl⟩ := isArray_iff.mp isArray
    rw [mergeAt_array]
    exact Or.inr rfl
  | cons key rest ih =>
    rcases above with rfl | ⟨overlayMap, insideAbove⟩
    · rwa [mergeAt_null]
    rcases below with rfl | ⟨isMap, insideBelow⟩
    · rw [mergeAt_over_null]
      exact Or.inr ⟨overlayMap, insideAbove⟩
    refine Or.inr ⟨isMap_mergeAt strategy path isMap overlayMap, fun child found => ?_⟩
    rw [get?_mergeAt strategy path isMap overlayMap distinct] at found
    rcases mergeUnder_cases strategy _ found with kept | ⟨upper, atKey, _, ⟨_, rfl⟩ | ⟨existing, wasAt, rfl⟩⟩
    · exact insideBelow child kept
    · exact insideAbove child atKey
    · exact ih (path ++ [key]) (insideBelow existing wasAt) (insideAbove upper atKey) (distinct.get? atKey)

end Steps

section Layers

variable {strategy : MergeStrategy} {layers : List Value} {place : List String}

/-- What a merge shows where arrays are appended: the array of either tree if the other one has none, and
else both of them in one. -/
theorem concatenated_at?_mergeWith {base overlay : Value} (appends : strategy.AppendsAt place)
    (below : base.ListsAt place) (above : overlay.ListsAt place) (distinct : overlay.DistinctKeys)
    (more : List Value) :
    concatenated (((mergeWith strategy base overlay).at? place).toList ++ more) =
      concatenated ((base.at? place).toList ++ ((overlay.at? place).toList ++ more)) := by
  cases upper : overlay.at? place with
  | none =>
    rw [mergeWith, at?_mergeAt_of_undecided strategy [] distinct (above.undecided upper)]
    rfl
  | some value =>
    cases lower : base.at? place with
    | none =>
      rw [mergeWith, at?_mergeAt_over_nothing strategy [] distinct lower upper]
      rfl
    | some existing =>
      obtain ⟨items, rfl⟩ := isArray_iff.mp (below.isArray_of_at? lower)
      obtain ⟨others, rfl⟩ := isArray_iff.mp (above.isArray_of_at? upper)
      have merged : (mergeWith strategy base overlay).at? place = some (.array (items ++ others)) := by
        rw [at?, mergeWith, getPath?_mergeAt_of_both strategy [] distinct (getPath?_of_at? lower)
          (getPath?_of_at? upper), mergeAt_array, List.nil_append,
          if_pos (MergeStrategy.concatenatesAt_iff.mpr appends), notNull?_some (by simp)]
      simp [merged, concatenated, asArray?]

/-- Layers over each other append their arrays in the order in which they are laid. -/
theorem at?_foldl_of_appends {base : Value} (appends : strategy.AppendsAt place) (below : base.ListsAt place)
    (above : ∀ layer ∈ layers, layer.ListsAt place) (distinct : ∀ layer ∈ layers, layer.DistinctKeys) :
    (layers.foldl (mergeWith strategy) base).at? place =
      concatenated ((base.at? place).toList ++ layers.filterMap fun layer => layer.at? place) := by
  induction layers generalizing base with
  | nil => rw [List.filterMap_nil, List.append_nil, List.foldl_nil, below.concatenated_at?]
  | cons layer rest ih =>
    obtain ⟨aboveHere, aboveLater⟩ := List.forall_mem_cons.mp above
    obtain ⟨distinctHere, distinctLater⟩ := List.forall_mem_cons.mp distinct
    have listed : (layer :: rest).filterMap (fun layer => layer.at? place) =
        (layer.at? place).toList ++ rest.filterMap fun layer => layer.at? place := by
      rw [List.filterMap_cons]
      cases layer.at? place <;> rfl
    have merged : (mergeWith strategy base layer).ListsAt place := below.mergeAt strategy [] aboveHere distinctHere
    rw [List.foldl_cons, ih merged aboveLater distinctLater, listed]
    exact concatenated_at?_mergeWith appends below aboveHere distinctHere _

/-- Where arrays are not appended, the last of those that the layers have stands alone. -/
theorem at?_foldl_of_replaces {base : Value} (replaces : ¬strategy.AppendsAt place)
    (above : ∀ layer ∈ layers, layer.ListsAt place) (distinct : ∀ layer ∈ layers, layer.DistinctKeys) :
    (layers.foldl (mergeWith strategy) base).at? place =
      (layers.filterMap fun layer => layer.at? place).getLast?.or (base.at? place) := by
  induction layers generalizing base with
  | nil => rfl
  | cons layer rest ih =>
    obtain ⟨aboveHere, aboveLater⟩ := List.forall_mem_cons.mp above
    obtain ⟨distinctHere, distinctLater⟩ := List.forall_mem_cons.mp distinct
    rw [List.foldl_cons, ih aboveLater distinctLater, List.filterMap_cons]
    cases held : layer.at? place with
    | none => rw [mergeWith, at?_mergeAt_of_undecided strategy [] distinctHere (aboveHere.undecided held)]
    | some value =>
      obtain ⟨merged, seen, _, exactly⟩ :=
        @at?_mergeAt_of_some strategy [] base layer value place distinctHere held
      obtain ⟨items, rfl⟩ := isArray_iff.mp (aboveHere.isArray_of_at? held)
      have alone : strategy.concatenatesAt ([] ++ place) = false := by
        rwa [List.nil_append, ← Bool.not_eq_true, MergeStrategy.concatenatesAt_iff]
      rw [mergeWith, seen, exactly rfl alone, List.getLast?_cons, Option.some_or]
      cases (rest.filterMap fun layer => layer.at? place).getLast? <;> rfl

end Layers

end BuildConfig.Value
