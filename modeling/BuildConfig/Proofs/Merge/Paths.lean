import BuildConfig.Proofs.Merge.Precedence

namespace BuildConfig

/-- Arrays are appended at this very place, be it that they are everywhere. -/
def MergeStrategy.AppendsAt (strategy : MergeStrategy) (place : List String) : Prop :=
  place ∈ strategy.concatFields ∨ strategy.arrays = .concat

theorem MergeStrategy.concatenatesAt_iff {strategy : MergeStrategy} {place : List String} :
    strategy.concatenatesAt place = true ↔ strategy.AppendsAt place := by
  rw [concatenatesAt, Bool.or_eq_true, List.contains_iff_mem, beq_iff_eq, AppendsAt]

instance (strategy : MergeStrategy) (place : List String) : Decidable (strategy.AppendsAt place) :=
  decidable_of_iff _ MergeStrategy.concatenatesAt_iff

namespace Value

/-- The entries that a map adds to another one: those under new keys that are not null. -/
def addedEntries (base overlay : Entries Value) : Entries Value :=
  overlay.filter fun entry => !entry.2.isNull && !Entries.contains base entry.1

section Steps

variable (strategy : MergeStrategy) (path : List String)

theorem getPath?_null_cons (key : String) (rest : List String) : Value.null.getPath? (key :: rest) = none := by
  rw [getPath?_cons]
  rfl

/-- A path ends where it meets a value that is no map. -/
theorem getPath?_eq_none_of_cut {tree value : Value} {outer place : List String} (within : outer <+: place)
    (proper : outer ≠ place) (held : tree.getPath? outer = some value) (notMap : value.isMap = false) :
    tree.getPath? place = none := by
  obtain ⟨more, rfl⟩ := within
  have further : more ≠ [] := by
    rintro rfl
    exact proper (List.append_nil outer).symm
  rw [getPath?_append, held, Option.bind_some, getPath?_eq_none_of_not_isMap notMap further]

/-- One key deeper into a merge with a map. -/
theorem getPath?_mergeAt_cons {base overlay : Value} (isMap : base.isMap = true) (overlayMap : overlay.isMap = true)
    (distinct : overlay.DistinctKeys) (key : String) (rest : List String) :
    (mergeAt strategy path base overlay).getPath? (key :: rest) =
      (mergeUnder strategy (path ++ [key]) (base.get? key) (overlay.get? key)).bind fun child =>
        child.getPath? rest := by
  rw [getPath?_cons, get?_mergeAt strategy path isMap overlayMap distinct]

/-- What both trees hold at a place is merged there, by what the strategy says of that very place. -/
theorem getPath?_mergeAt_of_both {base overlay lower upper : Value} {place : List String}
    (distinct : overlay.DistinctKeys) (below : base.getPath? place = some lower)
    (above : overlay.getPath? place = some upper) :
    (mergeAt strategy path base overlay).getPath? place = some (mergeAt strategy (path ++ place) lower upper) := by
  induction place generalizing base overlay path with
  | nil =>
    rw [getPath?_nil, Option.some.injEq] at below above ⊢
    rw [below, above, List.append_nil]
  | cons key rest ih =>
    rw [getPath?_mergeAt_cons strategy path (isMap_of_getPath?_eq_some (by simp) below)
      (isMap_of_getPath?_eq_some (by simp) above) distinct]
    rw [getPath?_cons] at below above
    obtain ⟨existing, atKey, deeper⟩ := Option.bind_eq_some_iff.mp below
    obtain ⟨child, found, held⟩ := Option.bind_eq_some_iff.mp above
    have shifted : path ++ key :: rest = path ++ [key] ++ rest := by
      rw [List.append_assoc, List.singleton_append]
    rw [atKey, found, shifted]
    by_cases null : child = .null
    · subst child
      cases rest with
      | nil =>
        rw [getPath?_nil, Option.some.injEq] at held
        rw [mergeUnder_null, Option.bind_some, deeper, ← held, mergeAt_null]
      | cons next more =>
        rw [getPath?_null_cons] at held
        cases held
    · rw [mergeUnder_some strategy _ _ null, Option.elim_some, Option.bind_some]
      exact ih (path ++ [key]) (distinct.get? found) deeper held

/-- What the lower tree holds stays, nulls included, where the upper one decides nothing. -/
theorem getPath?_mergeAt_of_undecided {base overlay lower : Value} {place : List String}
    (distinct : overlay.DistinctKeys) (undecided : ¬overlay.Decides place) (below : base.getPath? place = some lower) :
    (mergeAt strategy path base overlay).getPath? place = some lower := by
  by_cases null : overlay = .null
  · rw [null, mergeAt_null, below]
  induction place generalizing base overlay path with
  | nil => exact (undecided (decides_nil_iff.mpr null)).elim
  | cons key rest ih =>
    rw [getPath?_mergeAt_cons strategy path (isMap_of_getPath?_eq_some (by simp) below)
      (isMap_of_undecided undecided null) distinct]
    rw [getPath?_cons] at below
    obtain ⟨existing, atKey, deeper⟩ := Option.bind_eq_some_iff.mp below
    rw [atKey]
    cases found : overlay.get? key with
    | none => rw [mergeUnder_none, Option.bind_some, deeper]
    | some child =>
      by_cases childNull : child = .null
      · rw [childNull, mergeUnder_null, Option.bind_some, deeper]
      · rw [mergeUnder_some strategy _ _ childNull, Option.elim_some, Option.bind_some]
        have childUndecided : ¬child.Decides rest := fun decides =>
          undecided (decides_cons_iff.mpr (Or.inr ⟨child, found, decides⟩))
        exact ih (path ++ [key]) (distinct.get? found) childUndecided deeper childNull

/-- A merged map has the keys of the lower one, and after them the keys that the upper one adds. -/
theorem keys_mergeEntries (base : Entries Value) {overlay : Entries Value} (distinct : Entries.Distinct overlay) :
    Entries.keys (mergeEntries strategy path base overlay) =
      Entries.keys base ++ Entries.keys (addedEntries base overlay) := by
  induction overlay generalizing base with
  | nil => rw [mergeEntries_nil, addedEntries, List.filter_nil, Entries.keys_nil, List.append_nil]
  | cons entry rest ih =>
    obtain ⟨name, value⟩ := entry
    by_cases null : value = .null
    · subst value
      rw [mergeEntries_cons_null, ih base distinct.tail, addedEntries, addedEntries,
        List.filter_cons_of_neg (by simp [isNull])]
    · rw [mergeEntries_cons strategy path base name null, ih _ distinct.tail, Entries.keys_insert]
      generalize (Entries.get? base name).elim value _ = merged
      -- the key that comes first is none of the later ones, so they are as new as before
      have later : addedEntries (base.insert name merged) rest = addedEntries base rest := by
        refine List.filter_congr fun entry listed => ?_
        have other : entry.1 ≠ name := Entries.ne_of_get? (distinct.tail.get?_of_mem listed) distinct.get?_tail
        simp only [Entries.contains, Entries.get?_insert_of_ne base merged (Ne.symm other)]
      rw [later, addedEntries, addedEntries]
      by_cases held : name ∈ Entries.keys base
      · rw [if_pos held, List.filter_cons_of_neg (by simp [Entries.contains_iff_mem.mpr held])]
      · have fresh : Entries.contains base name = false := by
          rwa [← Bool.not_eq_true, Entries.contains_iff_mem]
        rw [if_neg held, List.filter_cons_of_pos (by simp [fresh, isNull_false_iff.mpr null]), Entries.keys_cons,
          List.append_assoc, List.singleton_append]

end Steps

/-- What a merge leaves of two trees at one place, by what they hold there. Two arrays that are appended
and two maps are joined. What the upper tree has covers everything else. Where it has nothing to say the
lower one stays, and beyond a value that is no map there is nothing. -/
structure MergedAt (strategy : MergeStrategy) (base overlay merged : Value) (place : List String) : Prop where
  appended : ∀ lower upper, base.getPath? place = some (.array lower) → overlay.getPath? place = some (.array upper) →
    strategy.AppendsAt place → merged.getPath? place = some (.array (lower ++ upper))
  covered : ∀ value, overlay.at? place = some value → value.isMap = false →
    ¬(strategy.AppendsAt place ∧ value.isArray = true ∧ ∃ lower, base.getPath? place = some (.array lower)) →
    merged.getPath? place = some value
  joined : ∀ lower upper, base.getPath? place = some (.map lower) → overlay.getPath? place = some (.map upper) →
    ∃ entries, mergeAt strategy place (.map lower) (.map upper) = .map entries ∧
      merged.getPath? place = some (.map entries) ∧
      Entries.keys entries = Entries.keys lower ++ Entries.keys (addedEntries lower upper)
  taken : ∀ upper, overlay.getPath? place = some (.map upper) → (∀ lower, base.getPath? place ≠ some (.map lower)) →
    merged.getPath? place = some (.map upper)
  kept : ¬overlay.Decides place → ∀ lower, base.getPath? place = some lower → merged.getPath? place = some lower
  nothing : ¬overlay.Decides place → base.getPath? place = none → merged.at? place = none
  cut : ∀ outer value, outer <+: place → outer ≠ place → overlay.at? outer = some value → value.isMap = false →
    merged.getPath? place = none

/-- At every place a merge leaves what the two trees have there, whatever the strategy. -/
theorem mergedAt_mergeWith (strategy : MergeStrategy) (base : Value) {overlay : Value} (distinct : overlay.DistinctKeys)
    (place : List String) : MergedAt strategy base overlay (mergeWith strategy base overlay) place where
  appended := by
    intro lower upper below above appends
    rw [mergeWith, getPath?_mergeAt_of_both strategy [] distinct below above, List.nil_append, mergeAt_array,
      if_pos (MergeStrategy.concatenatesAt_iff.mpr appends)]
  covered := by
    intro value held notMap alone
    cases below : base.getPath? place with
    | none =>
      have nothing : base.at? place = none := by rw [at?, below, notNull?_none]
      exact getPath?_of_at? (at?_mergeAt_over_nothing strategy [] distinct nothing held)
    | some lower =>
      rw [mergeWith, getPath?_mergeAt_of_both strategy [] distinct below (getPath?_of_at? held), List.nil_append]
      by_cases arrays : lower.isArray = true ∧ value.isArray = true
      · obtain ⟨items, rfl⟩ := isArray_iff.mp arrays.1
        obtain ⟨others, rfl⟩ := isArray_iff.mp arrays.2
        have replaces : ¬strategy.AppendsAt place := fun appends => alone ⟨appends, rfl, items, below⟩
        rw [mergeAt_array, if_neg (mt MergeStrategy.concatenatesAt_iff.mp replaces)]
      · rw [mergeAt_covered strategy place (notNull?_eq_some_iff.mp held).2 (fun _ => notMap) (by simpa using arrays)]
  joined := by
    intro lower upper below above
    refine ⟨mergeEntries strategy place lower upper, mergeAt_map strategy place lower upper, ?_, ?_⟩
    · rw [mergeWith, getPath?_mergeAt_of_both strategy [] distinct below above, List.nil_append, mergeAt_map]
    · exact keys_mergeEntries strategy place lower (distinct.getPath? above).entries
  taken := by
    intro upper above alone
    cases below : base.getPath? place with
    | none =>
      have nothing : base.at? place = none := by rw [at?, below, notNull?_none]
      have held : overlay.at? place = some (.map upper) := by rw [at?, above, notNull?_some (by simp)]
      exact getPath?_of_at? (at?_mergeAt_over_nothing strategy [] distinct nothing held)
    | some lower =>
      have notMap : lower.isMap = false := by
        rw [← Bool.not_eq_true, isMap_iff]
        rintro ⟨entries, rfl⟩
        exact alone entries below
      rw [mergeWith, getPath?_mergeAt_of_both strategy [] distinct below above,
        mergeAt_covered strategy _ (by simp) (by simp [notMap]) (fun _ => rfl)]
  kept := fun undecided _ => getPath?_mergeAt_of_undecided strategy [] distinct undecided
  nothing := by
    intro undecided below
    rw [mergeWith, at?_mergeAt_of_undecided strategy [] distinct undecided, at?, below, notNull?_none]
  cut := by
    intro outer value within proper held notMap
    obtain ⟨merged, seen, sameKind, _⟩ := @at?_mergeAt_of_some strategy [] base overlay value outer distinct held
    exact getPath?_eq_none_of_cut within proper (getPath?_of_at? seen) (sameKind.trans notMap)

/-- Presets are appended, other arrays and disabled parts cover, and nulls come to nothing but where a
whole map is new. -/
theorem mergedAt_mergeWith_presets :
    let base : Value := .map
      [("babel", .map [("presets", .array [.string "react"]), ("cherryPick", .array [.string "lodash"])]),
        ("npm", .map [("umd", .map [("global", .string "App")]), ("cjs", .bool true)])]
    let overlay : Value := .map
      [("webpack", .map [("html", .null)]), ("karma", .null),
        ("babel", .map [("loose", .bool true), ("presets", .array [.string "stage-0"]), ("cherryPick", .array [])]),
        ("npm", .map [("umd", .bool false), ("cjs", .null)])]
    let merged := mergeWith layerStrategy base overlay
    overlay.DistinctKeys ∧
      merged.getPath? ["babel", "presets"] = some (.array [.string "react", .string "stage-0"]) ∧
      merged.getPath? ["babel", "cherryPick"] = some (.array []) ∧
      (∃ entries, merged.getPath? ["babel"] = some (.map entries) ∧
        Entries.keys entries = ["presets", "cherryPick", "loose"]) ∧
      merged.getPath? ["webpack"] = some (.map [("html", .null)]) ∧
      merged.getPath? ["npm", "cjs"] = some (.bool true) ∧
      merged.at? ["karma"] = none ∧
      merged.getPath? ["npm", "umd", "global"] = none := by
  intro base overlay merged
  have distinct : overlay.DistinctKeys := by decide
  have settled (place : List String) : MergedAt layerStrategy base overlay merged place :=
    mergedAt_mergeWith layerStrategy base distinct place
  obtain ⟨entries, _, babel, keys⟩ := (settled ["babel"]).joined _ _ rfl rfl
  refine ⟨distinct, ?_, ?_, ⟨entries, babel, keys.trans (by decide)⟩, ?_, ?_, ?_, ?_⟩
  · exact (settled ["babel", "presets"]).appended _ _ rfl rfl (Or.inl (by simp [layerStrategy]))
  · exact (settled ["babel", "cherryPick"]).covered _ rfl rfl (by simp [MergeStrategy.AppendsAt, layerStrategy])
  · exact (settled ["webpack"]).taken _ rfl (by rintro _ ⟨⟩)
  · exact (settled ["npm", "cjs"]).kept (by decide) _ rfl
  · exact (settled ["karma"]).nothing (by decide) rfl
  · exact (settled ["npm", "umd", "global"]).cut ["npm", "umd"] (.bool false) (by decide) (by decide) rfl rfl

end Value

end BuildConfig
