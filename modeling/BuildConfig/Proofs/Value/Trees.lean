import BuildConfig.Proofs.Entries.Lookup
import BuildConfig.Proofs.Related
import BuildConfig.Value.Edit
import BuildConfig.Value.Equality

namespace BuildConfig.Value

/-- Induction over trees. What holds of the values inside an array or a map is available for the
whole; the other kinds have nothing inside. -/
@[elab_as_elim]
theorem treeInduction {motive : Value → Prop}
    (leaf : ∀ value, value.isMap = false → value.isArray = false → motive value)
    (array : ∀ items, (∀ item ∈ items, motive item) → motive (.array items))
    (map : ∀ entries, (∀ key value, (key, value) ∈ entries → motive value) → motive (.map entries)) :
    ∀ value, motive value
  | .null => leaf .null rfl rfl
  | .bool value => leaf (.bool value) rfl rfl
  | .number value => leaf (.number value) rfl rfl
  | .string text => leaf (.string text) rfl rfl
  | .pattern source => leaf (.pattern source) rfl rfl
  | .function name => leaf (.function name) rfl rfl
  | .array items => array items fun item _ => treeInduction leaf array map item
  | .map entries => map entries fun _ value _ => treeInduction leaf array map value
termination_by value => sizeOf value
decreasing_by
  · have smaller := List.sizeOf_lt_of_mem (by assumption : item ∈ items)
    simp only [Value.array.sizeOf_spec]
    omega
  · rename_i key held
    have smaller := List.sizeOf_lt_of_mem held
    simp only [Prod.mk.sizeOf_spec] at smaller
    simp only [Value.map.sizeOf_spec]
    omega

theorem isNull_iff {value : Value} : value.isNull = true ↔ value = .null := by
  cases value <;> simp [isNull]

theorem isNull_false_iff {value : Value} : value.isNull = false ↔ value ≠ .null := by
  cases value <;> simp [isNull]

theorem isMap_iff {value : Value} : value.isMap = true ↔ ∃ entries, value = .map entries := by
  cases value <;> simp [isMap]

theorem isArray_iff {value : Value} : value.isArray = true ↔ ∃ items, value = .array items := by
  cases value <;> simp [isArray]

/-- What a look-up finds, where a null counts as nothing. -/
def notNull? (found : Option Value) : Option Value :=
  found.filter fun value => !value.isNull

theorem notNull?_eq_some_iff {found : Option Value} {value : Value} :
    notNull? found = some value ↔ found = some value ∧ value ≠ .null := by
  simp only [notNull?, Option.filter_eq_some_iff, Bool.not_eq_true', isNull_false_iff]

@[simp] theorem notNull?_none : notNull? none = none := rfl

@[simp] theorem notNull?_null : notNull? (some .null) = none := rfl

theorem notNull?_some {value : Value} (notNull : value ≠ .null) : notNull? (some value) = some value :=
  notNull?_eq_some_iff.mpr ⟨rfl, notNull⟩

theorem notNull?_eq_none_iff {found : Option Value} :
    notNull? found = none ↔ ∀ value, found = some value → value = .null := by
  simp only [notNull?, Option.filter_eq_none_iff, Bool.not_eq_true', isNull_false_iff, ne_eq, Classical.not_not]

theorem rel_notNull? {related : Value → Value → Prop} (nulls : ∀ a b, related a b → (a = .null ↔ b = .null))
    {found other : Option Value} (rel : Option.Rel related found other) :
    Option.Rel related (notNull? found) (notNull? other) := by
  cases rel with
  | none => exact .none
  | @some a b both =>
    by_cases null : a = .null
    · rw [null, (nulls a b both).mp null]
      exact .none
    · rw [notNull?_some null, notNull?_some (mt (nulls a b both).mpr null)]
      exact .some both

@[simp] theorem entries_map (entries : Entries Value) : (Value.map entries).entries = entries := rfl

@[simp] theorem get?_map (entries : Entries Value) (key : String) :
    (Value.map entries).get? key = Entries.get? entries key := rfl

theorem get?_eq_none_of_not_isMap {value : Value} (notMap : value.isMap = false) (key : String) :
    value.get? key = none := by
  cases value <;> first | rfl | simp [isMap] at notMap

theorem isMap_of_get?_eq_some {value child : Value} {key : String} (found : value.get? key = some child) :
    value.isMap = true := by
  cases value <;> first | rfl | cases found

theorem getPath?_nil (value : Value) : value.getPath? [] = some value := by
  simp [getPath?]

theorem getPath?_cons (value : Value) (key : String) (rest : List String) :
    value.getPath? (key :: rest) = (value.get? key).bind fun child => child.getPath? rest := by
  simp [getPath?]

theorem isMap_of_getPath?_eq_some {value child : Value} {path : List String} (nonempty : path ≠ [])
    (found : value.getPath? path = some child) : value.isMap = true := by
  obtain ⟨key, rest, rfl⟩ := List.exists_cons_of_ne_nil nonempty
  rw [getPath?_cons] at found
  obtain ⟨next, atKey, _⟩ := Option.bind_eq_some_iff.mp found
  exact isMap_of_get?_eq_some atKey

/-- Only maps have something inside that a path can lead to. -/
theorem getPath?_eq_none_of_not_isMap {value : Value} {path : List String} (notMap : value.isMap = false)
    (nonempty : path ≠ []) : value.getPath? path = none := by
  cases found : value.getPath? path with
  | none => rfl
  | some child =>
    rw [isMap_of_getPath?_eq_some nonempty found] at notMap
    cases notMap

@[simp] theorem getPath?_single (value : Value) (key : String) : value.getPath? [key] = value.get? key := by
  rw [getPath?_cons]
  cases value.get? key <;> simp [getPath?_nil]

theorem getPath?_append (value : Value) (path more : List String) :
    value.getPath? (path ++ more) = (value.getPath? path).bind fun child => child.getPath? more := by
  induction path generalizing value with
  | nil => simp [getPath?_nil]
  | cons key rest ih =>
    rw [List.cons_append, getPath?_cons, getPath?_cons]
    cases value.get? key with
    | none => rfl
    | some child => exact ih child

/-- Two values that a change further inside cannot tell apart: they are equal, or both are maps. -/
def SameOutside (a b : Value) : Prop :=
  a = b ∨ (a.isMap = true ∧ b.isMap = true)

theorem SameOutside.refl (value : Value) : SameOutside value value :=
  Or.inl rfl

theorem SameOutside.null_iff {a b : Value} (same : SameOutside a b) : a = .null ↔ b = .null := by
  rcases same with rfl | ⟨isMap, otherMap⟩
  · exact Iff.rfl
  · constructor
    · rintro rfl
      cases isMap
    · rintro rfl
      cases otherMap

theorem SameOutside.trans {a b c : Value} (first : SameOutside a b) (second : SameOutside b c) :
    SameOutside a c := by
  rcases first with rfl | ⟨isMap, middle⟩
  · exact second
  · rcases second with rfl | ⟨_, last⟩
    · exact Or.inr ⟨isMap, middle⟩
    · exact Or.inr ⟨isMap, last⟩

theorem distinctKeysItems_iff {items : List Value} :
    DistinctKeysItems items ↔ ∀ item ∈ items, item.DistinctKeys := by
  induction items with
  | nil => simp [DistinctKeysItems]
  | cons item rest ih => simp [DistinctKeysItems, ih]

theorem distinctKeysEntries_iff {entries : Entries Value} :
    DistinctKeysEntries entries ↔ ∀ key value, (key, value) ∈ entries → value.DistinctKeys := by
  induction entries with
  | nil => simp [DistinctKeysEntries]
  | cons entry rest ih =>
    obtain ⟨name, held⟩ := entry
    simp only [DistinctKeysEntries, ih, List.mem_cons, Prod.mk.injEq]
    constructor
    · rintro ⟨here, later⟩ key value (⟨_, rfl⟩ | deeper)
      · exact here
      · exact later key value deeper
    · intro all
      exact ⟨all name held (Or.inl ⟨rfl, rfl⟩), fun key value deeper => all key value (Or.inr deeper)⟩

theorem distinctKeys_array {items : List Value} :
    (Value.array items).DistinctKeys ↔ ∀ item ∈ items, item.DistinctKeys := by
  rw [DistinctKeys, distinctKeysItems_iff]

theorem distinctKeys_map {entries : Entries Value} :
    (Value.map entries).DistinctKeys ↔
      Entries.Distinct entries ∧ ∀ key value, Entries.get? entries key = some value → value.DistinctKeys := by
  rw [DistinctKeys, distinctKeysEntries_iff]
  refine and_congr_right fun distinct => ?_
  simp only [distinct.mem_iff]

mutual

/-- Whether a tree repeats no key can be computed. -/
def decideDistinctKeys : (value : Value) → Decidable value.DistinctKeys
  | .array items => decideDistinctItems items
  | .map entries =>
    have : Decidable (Entries.Distinct entries) := inferInstanceAs (Decidable (Entries.keys entries).Nodup)
    have := decideDistinctEntries entries
    inferInstanceAs (Decidable (Entries.Distinct entries ∧ DistinctKeysEntries entries))
  | .null => .isTrue trivial
  | .bool _ => .isTrue trivial
  | .number _ => .isTrue trivial
  | .string _ => .isTrue trivial
  | .pattern _ => .isTrue trivial
  | .function _ => .isTrue trivial

def decideDistinctItems : (items : List Value) → Decidable (DistinctKeysItems items)
  | [] => .isTrue trivial
  | item :: rest =>
    have := decideDistinctKeys item
    have := decideDistinctItems rest
    inferInstanceAs (Decidable (item.DistinctKeys ∧ DistinctKeysItems rest))

def decideDistinctEntries : (entries : List (String × Value)) → Decidable (DistinctKeysEntries entries)
  | [] => .isTrue trivial
  | (_, value) :: rest =>
    have := decideDistinctKeys value
    have := decideDistinctEntries rest
    inferInstanceAs (Decidable (value.DistinctKeys ∧ DistinctKeysEntries rest))

end

instance (value : Value) : Decidable value.DistinctKeys :=
  decideDistinctKeys value

theorem distinctKeys_empty : empty.DistinctKeys :=
  distinctKeys_map.mpr ⟨Entries.distinct_nil, by simp [Entries.get?]⟩

theorem distinctKeys_leaf {value : Value} (notMap : value.isMap = false) (notArray : value.isArray = false) :
    value.DistinctKeys := by
  cases value <;> first | exact trivial | simp [isMap, isArray] at notMap notArray

theorem DistinctKeys.entries {value : Value} (distinct : value.DistinctKeys) :
    Entries.Distinct value.entries := by
  cases value with
  | map entries => exact (distinctKeys_map.mp distinct).1
  | _ => exact Entries.distinct_nil

theorem DistinctKeys.get? {value child : Value} {key : String} (distinct : value.DistinctKeys)
    (found : value.get? key = some child) : child.DistinctKeys := by
  cases value with
  | map entries => exact (distinctKeys_map.mp distinct).2 key child found
  | _ => simp [Value.get?, Value.entries, Entries.get?] at found

theorem DistinctKeys.getPath? {value child : Value} {path : List String} (distinct : value.DistinctKeys)
    (found : value.getPath? path = some child) : child.DistinctKeys := by
  induction path generalizing value with
  | nil =>
    rw [getPath?_nil, Option.some.injEq] at found
    exact found ▸ distinct
  | cons key rest ih =>
    rw [getPath?_cons] at found
    obtain ⟨next, atKey, deeper⟩ := Option.bind_eq_some_iff.mp found
    exact ih (distinct.get? atKey) deeper

end BuildConfig.Value
