import BuildConfig.Merge
import BuildConfig.Proofs.Value.AlikeEdits
import Mathlib.Data.List.Forall2

namespace BuildConfig.Value

variable (strategy : MergeStrategy) (path : List String)

/-- What a merge leaves under one key of two maps. A null above counts as absent, and a value above
nothing is taken as it is, nulls inside of it included. -/
def mergeUnder (below above : Option Value) : Option Value :=
  match notNull? above with
  | none => below
  | some value => some (below.elim value fun existing => mergeAt strategy path existing value)

theorem mergeAt_null (base : Value) : mergeAt strategy path base .null = base := by
  cases base <;> rfl

theorem mergeAt_map (base overlay : Entries Value) :
    mergeAt strategy path (.map base) (.map overlay) = .map (mergeEntries strategy path base overlay) := by
  rw [mergeAt]

theorem mergeAt_array (base overlay : List Value) :
    mergeAt strategy path (.array base) (.array overlay) =
      .array (if strategy.concatenatesAt path then base ++ overlay else overlay) := by
  rw [mergeAt]
  split <;> rfl

/-- Only two maps or two arrays are combined. Otherwise what lies above covers what lies below. -/
theorem mergeAt_covered {base overlay : Value} (notNull : overlay ≠ .null)
    (maps : base.isMap = true → overlay.isMap = false)
    (arrays : base.isArray = true → overlay.isArray = false) : mergeAt strategy path base overlay = overlay := by
  cases overlay with
  | null => exact absurd rfl notNull
  | map entries =>
    cases base with
    | map => exact absurd (maps rfl) (by simp [isMap])
    | _ => rfl
  | array items =>
    cases base with
    | array => exact absurd (arrays rfl) (by simp [isArray])
    | _ => rfl
  | _ => cases base <;> rfl

theorem mergeAt_scalar {overlay : Value} (base : Value) (notNull : overlay ≠ .null)
    (notMap : overlay.isMap = false) (notArray : overlay.isArray = false) :
    mergeAt strategy path base overlay = overlay :=
  mergeAt_covered strategy path notNull (fun _ => notMap) (fun _ => notArray)

theorem mergeAt_over_null (overlay : Value) : mergeAt strategy path .null overlay = overlay := by
  by_cases null : overlay = .null
  · rw [null, mergeAt_null]
  · exact mergeAt_covered strategy path null (by simp [isMap]) (by simp [isArray])

@[simp] theorem mergeUnder_none (below : Option Value) : mergeUnder strategy path below none = below := rfl

@[simp] theorem mergeUnder_null (below : Option Value) :
    mergeUnder strategy path below (some .null) = below := rfl

theorem mergeUnder_some (below : Option Value) {value : Value} (notNull : value ≠ .null) :
    mergeUnder strategy path below (some value) =
      some (below.elim value fun existing => mergeAt strategy path existing value) := by
  rw [mergeUnder, notNull?_some notNull]

theorem mergeUnder_cases {below above : Option Value} {value : Value}
    (merged : mergeUnder strategy path below above = some value) :
    below = some value ∨ ∃ upper, above = some upper ∧ upper ≠ .null ∧
      (below = none ∧ value = upper ∨
        ∃ existing, below = some existing ∧ value = mergeAt strategy path existing upper) := by
  cases above with
  | none => exact Or.inl merged
  | some upper =>
    by_cases null : upper = .null
    · subst upper
      exact Or.inl merged
    · rw [mergeUnder_some strategy path below null, Option.some.injEq] at merged
      refine Or.inr ⟨upper, rfl, null, ?_⟩
      cases below with
      | none => exact Or.inl ⟨rfl, merged.symm⟩
      | some existing => exact Or.inr ⟨existing, rfl, merged.symm⟩

@[simp] theorem mergeEntries_nil (base : Entries Value) : mergeEntries strategy path base [] = base := by
  rw [mergeEntries]

theorem mergeEntries_cons_null (base : Entries Value) (key : String) (rest : List (String × Value)) :
    mergeEntries strategy path base ((key, .null) :: rest) = mergeEntries strategy path base rest := by
  rw [mergeEntries]
  rfl

theorem mergeEntries_cons (base : Entries Value) (key : String) {value : Value} (notNull : value ≠ .null)
    (rest : List (String × Value)) :
    mergeEntries strategy path base ((key, value) :: rest) =
      mergeEntries strategy path (Entries.insert base key ((Entries.get? base key).elim value fun existing =>
        mergeAt strategy (path ++ [key]) existing value)) rest := by
  rw [mergeEntries, isNull_false_iff.mpr notNull]
  cases Entries.get? base key <;> rfl

/-- A merge works key by key: look-ups in the result depend on nothing but the same look-ups in the
two maps. -/
theorem get?_mergeEntries (base : Entries Value) {overlay : Entries Value}
    (distinct : Entries.Distinct overlay) (key : String) :
    Entries.get? (mergeEntries strategy path base overlay) key =
      mergeUnder strategy (path ++ [key]) (Entries.get? base key) (Entries.get? overlay key) := by
  induction overlay generalizing base with
  | nil => rw [mergeEntries_nil, Entries.get?, mergeUnder_none]
  | cons entry rest ih =>
    obtain ⟨name, value⟩ := entry
    by_cases null : value = .null
    · subst value
      rw [mergeEntries_cons_null, ih base distinct.tail]
      by_cases same : name = key
      · subst name
        rw [distinct.get?_tail, Entries.get?, if_pos rfl, mergeUnder_none, mergeUnder_null]
      · rw [Entries.get?, if_neg same]
    · rw [mergeEntries_cons strategy path base name null, ih _ distinct.tail, Entries.get?_insert]
      by_cases same : name = key
      · subst name
        rw [distinct.get?_tail, if_pos rfl, Entries.get?, if_pos rfl, mergeUnder_none,
          mergeUnder_some strategy _ _ null]
      · rw [if_neg same, Entries.get?, if_neg same]

/-- The look-ups in a merge of two maps. -/
theorem get?_mergeAt {base overlay : Value} (isMap : base.isMap = true) (overlayMap : overlay.isMap = true)
    (distinct : overlay.DistinctKeys) (key : String) :
    (mergeAt strategy path base overlay).get? key =
      mergeUnder strategy (path ++ [key]) (base.get? key) (overlay.get? key) := by
  obtain ⟨lower, rfl⟩ := isMap_iff.mp isMap
  obtain ⟨upper, rfl⟩ := isMap_iff.mp overlayMap
  have distinctUpper : Entries.Distinct upper := distinct.entries
  rw [mergeAt_map, get?_map, get?_mergeEntries strategy path lower distinctUpper]
  rfl

theorem isMap_mergeAt {base overlay : Value} (isMap : base.isMap = true) (overlayMap : overlay.isMap = true) :
    (mergeAt strategy path base overlay).isMap = true := by
  obtain ⟨lower, rfl⟩ := isMap_iff.mp isMap
  obtain ⟨upper, rfl⟩ := isMap_iff.mp overlayMap
  rw [mergeAt_map]
  rfl

theorem mergeAt_ne_null (base : Value) {overlay : Value} (notNull : overlay ≠ .null) :
    mergeAt strategy path base overlay ≠ .null := by
  by_cases maps : base.isMap = true ∧ overlay.isMap = true
  · have isMap := isMap_mergeAt strategy path maps.1 maps.2
    rintro null
    rw [null] at isMap
    cases isMap
  by_cases arrays : base.isArray = true ∧ overlay.isArray = true
  · obtain ⟨lower, rfl⟩ := isArray_iff.mp arrays.1
    obtain ⟨upper, rfl⟩ := isArray_iff.mp arrays.2
    rw [mergeAt_array]
    simp
  · rwa [mergeAt_covered strategy path notNull (by simpa using maps) (by simpa using arrays)]

/-- A merge puts no null under a key. -/
theorem mergeUnder_ne_null {below : Option Value} (above : Option Value) (notNull : below ≠ some .null) :
    mergeUnder strategy path below above ≠ some .null := by
  intro merged
  rcases mergeUnder_cases strategy path merged with kept | ⟨upper, _, upperNotNull, ⟨_, same⟩ | ⟨existing, _, same⟩⟩
  · exact notNull kept
  · exact upperNotNull same.symm
  · exact mergeAt_ne_null strategy path existing upperNotNull same.symm

theorem mem_keys_mergeEntries {base : Entries Value} {overlay : Entries Value} {key : String}
    (held : key ∈ Entries.keys (mergeEntries strategy path base overlay)) :
    key ∈ Entries.keys base ∨ key ∈ Entries.keys overlay := by
  induction overlay generalizing base with
  | nil => exact Or.inl (by simpa only [mergeEntries_nil] using held)
  | cons entry rest ih =>
    obtain ⟨name, value⟩ := entry
    rw [Entries.keys_cons, List.mem_cons, or_left_comm]
    by_cases null : value = .null
    · subst value
      rw [mergeEntries_cons_null] at held
      exact Or.inr (ih held)
    · rw [mergeEntries_cons strategy path base name null] at held
      rcases ih held with before | later
      · exact (Entries.mem_keys_insert.mp before).imp_right Or.inl
      · exact Or.inr (Or.inr later)

theorem keys_subset_mergeEntries {base : Entries Value} {key : String} (held : key ∈ Entries.keys base)
    (overlay : Entries Value) : key ∈ Entries.keys (mergeEntries strategy path base overlay) := by
  induction overlay generalizing base with
  | nil => rwa [mergeEntries_nil]
  | cons entry rest ih =>
    obtain ⟨name, value⟩ := entry
    by_cases null : value = .null
    · subst value
      rw [mergeEntries_cons_null]
      exact ih held
    · rw [mergeEntries_cons strategy path base name null]
      exact ih (Entries.mem_keys_insert.mpr (Or.inr held))

theorem distinct_mergeEntries {base : Entries Value} (distinct : Entries.Distinct base)
    (overlay : Entries Value) : Entries.Distinct (mergeEntries strategy path base overlay) := by
  induction overlay generalizing base with
  | nil => rwa [mergeEntries_nil]
  | cons entry rest ih =>
    obtain ⟨name, value⟩ := entry
    by_cases null : value = .null
    · subst value
      rw [mergeEntries_cons_null]
      exact ih distinct
    · rw [mergeEntries_cons strategy path base name null]
      exact ih (distinct.insert name _)

theorem rel_mergeUnder {below other above higher : Option Value} (lower : Option.Rel Alike below other)
    (upper : Option.Rel Alike above higher)
    (both : ∀ a b c d, Alike a b → above = some c → higher = some d →
      Alike (mergeAt strategy path a c) (mergeAt strategy path b d)) :
    Option.Rel Alike (mergeUnder strategy path below above) (mergeUnder strategy path other higher) := by
  cases upper with
  | none => exact lower
  | @some c d upper =>
    by_cases null : c = .null
    · rw [null, upper.null_iff.mp null, mergeUnder_null, mergeUnder_null]
      exact lower
    · rw [mergeUnder_some strategy path below null, mergeUnder_some strategy path other (mt upper.null_iff.mpr null)]
      cases lower with
      | none => exact .some upper
      | @some a b lower => exact .some (both a b c d lower rfl rfl)

/-- The order of keys in either tree plays no part in a merge but for the order of keys. -/
theorem Alike.mergeAt {base other overlay higher : Value} (below : Alike base other)
    (above : Alike overlay higher) :
    Alike (mergeAt strategy path base overlay) (mergeAt strategy path other higher) := by
  induction above generalizing base other path with
  | @leaf overlay higher notMap notArray same =>
    have above : Alike overlay higher := .leaf notMap notArray same
    by_cases null : overlay = .null
    · rw [null, above.null_iff.mp null, mergeAt_null, mergeAt_null]
      exact below
    · rw [mergeAt_scalar strategy path base null notMap notArray,
        mergeAt_scalar strategy path other (mt above.null_iff.mpr null) (above.isMap ▸ notMap)
          (above.isArray ▸ notArray)]
      exact above
  | @array as bs length inside _ =>
    have above : Alike (.array as) (.array bs) := .array length inside
    cases isArray : base.isArray with
    | true =>
      obtain ⟨lower, rfl⟩ := isArray_iff.mp isArray
      obtain ⟨others, rfl⟩ := isArray_iff.mp (below.isArray ▸ isArray)
      rw [mergeAt_array, mergeAt_array]
      split
      · exact alike_array_iff.mpr (List.rel_append (alike_array_iff.mp below) (alike_array_iff.mp above))
      · exact above
    | false =>
      have otherNotArray := below.isArray ▸ isArray
      rw [mergeAt_covered strategy path (by simp) (fun _ => rfl) (by simp [isArray]),
        mergeAt_covered strategy path (by simp) (fun _ => rfl) (by simp [otherNotArray])]
      exact above
  | @map as bs left right keys inside ih =>
    have above : Alike (.map as) (.map bs) := .map left right keys inside
    cases isMap : base.isMap with
    | true =>
      obtain ⟨lower, rfl⟩ := isMap_iff.mp isMap
      obtain ⟨others, rfl⟩ := isMap_iff.mp (below.isMap ▸ isMap)
      obtain ⟨distinctLower, distinctOthers, lookups⟩ := alike_map_iff.mp below
      rw [mergeAt_map, mergeAt_map]
      refine alike_map_iff.mpr ⟨distinct_mergeEntries strategy path distinctLower as,
        distinct_mergeEntries strategy path distinctOthers bs, fun key => ?_⟩
      rw [get?_mergeEntries strategy path lower left, get?_mergeEntries strategy path others right]
      refine rel_mergeUnder strategy _ (lookups key) (rel_of_isSome (keys key) (inside key)) ?_
      intro a b c d lowerAlike atA atB
      exact ih key c d atA atB (path ++ [key]) lowerAlike
    | false =>
      have otherNotMap := below.isMap ▸ isMap
      rw [mergeAt_covered strategy path (by simp) (by simp [isMap]) (fun _ => rfl),
        mergeAt_covered strategy path (by simp) (by simp [otherNotMap]) (fun _ => rfl)]
      exact above

/-- A merge of trees without repeated keys repeats none, at any depth. -/
theorem DistinctKeys.mergeAt {base overlay : Value} (below : base.DistinctKeys) (above : overlay.DistinctKeys) :
    (mergeAt strategy path base overlay).DistinctKeys :=
  alike_self_iff.mp ((alike_self below).mergeAt strategy path (alike_self above))

end BuildConfig.Value
