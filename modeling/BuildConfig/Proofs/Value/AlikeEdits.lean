import BuildConfig.Proofs.Value.Alike

namespace BuildConfig.Value

variable {a b : Value}

theorem alike_empty : Alike .empty .empty :=
  alike_self distinctKeys_empty

theorem Alike.isMap (alike : Alike a b) : a.isMap = b.isMap :=
  isMap_of_same alike.same

theorem Alike.isArray (alike : Alike a b) : a.isArray = b.isArray :=
  isArray_of_same alike.same

theorem isNull_of_same (same : a.same b = true) : a.isNull = b.isNull := by
  cases a <;> cases b <;> first | rfl | simp [Value.same] at same

theorem Alike.null_iff (alike : Alike a b) : a = .null ↔ b = .null := by
  rw [← isNull_iff, ← isNull_iff, isNull_of_same alike.same]

theorem Alike.asString? (alike : Alike a b) : a.asString? = b.asString? := by
  have same := alike.same
  cases a <;> cases b <;> simp_all [Value.same, Value.asString?]

theorem Alike.entries (alike : Alike a b) : Alike (.map a.entries) (.map b.entries) := by
  cases alike with
  | leaf notMap _ same =>
    have otherNotMap := isMap_of_same same ▸ notMap
    have none {value : Value} (notMap : value.isMap = false) : value.entries = [] := by
      cases value <;> first | rfl | cases notMap
    rw [none notMap, none otherNotMap]
    exact alike_empty
  | array => exact alike_empty
  | map left right keys inside => exact .map left right keys inside

theorem Alike.get? (alike : Alike a b) (key : String) : Option.Rel Alike (a.get? key) (b.get? key) :=
  (alike_map_iff.mp alike.entries).2.2 key

theorem Alike.getPath? (alike : Alike a b) (path : List String) :
    Option.Rel Alike (a.getPath? path) (b.getPath? path) := by
  induction path generalizing a b with
  | nil =>
    rw [getPath?_nil, getPath?_nil]
    exact .some alike
  | cons key rest ih =>
    rw [getPath?_cons, getPath?_cons]
    exact rel_bind (alike.get? key) fun _ _ child => ih child

theorem alike_getD_empty {x y : Option Value} (rel : Option.Rel Alike x y) :
    Alike (x.getD .empty) (y.getD .empty) := by
  cases rel with
  | none => exact alike_empty
  | some alike => exact alike

theorem Alike.insert {as bs : Entries Value} (alike : Alike (.map as) (.map bs)) (new : Alike a b)
    (key : String) : Alike (.map (Entries.insert as key a)) (.map (Entries.insert bs key b)) := by
  obtain ⟨left, right, lookups⟩ := alike_map_iff.mp alike
  refine alike_map_iff.mpr ⟨left.insert key a, right.insert key b, fun name => ?_⟩
  rw [Entries.get?_insert, Entries.get?_insert]
  split
  · exact .some new
  · exact lookups name

theorem Alike.erase {as bs : Entries Value} (alike : Alike (.map as) (.map bs)) (key : String) :
    Alike (.map (Entries.erase as key)) (.map (Entries.erase bs key)) := by
  obtain ⟨left, right, lookups⟩ := alike_map_iff.mp alike
  refine alike_map_iff.mpr ⟨left.erase key, right.erase key, fun name => ?_⟩
  by_cases same : key = name
  · subst name
    rw [Entries.get?_erase_self left, Entries.get?_erase_self right]
    exact .none
  · rw [Entries.get?_erase_of_ne as same, Entries.get?_erase_of_ne bs same]
    exact lookups name

/-- Maps of the same entries in different orders are alike. -/
theorem alike_of_perm {entries others : Entries Value} (distinct : (Value.map entries).DistinctKeys)
    (perm : entries.Perm others) : Alike (.map entries) (.map others) := by
  obtain ⟨distinctHere, _, lookups⟩ := alike_map_iff.mp (alike_self distinct)
  refine alike_map_iff.mpr ⟨distinctHere, distinctHere.perm perm, fun key => ?_⟩
  have rel := lookups key
  rwa [distinctHere.get?_eq_of_perm perm key] at rel ⊢

theorem Alike.insertPath {new other : Value} (alike : Alike a b) (news : Alike new other) (path : List String) :
    Alike (a.insertPath path new) (b.insertPath path other) := by
  induction path generalizing a b with
  | nil => simpa only [Value.insertPath] using news
  | cons key rest ih =>
    rw [Value.insertPath, Value.insertPath]
    exact alike.entries.insert (ih (alike_getD_empty (alike.get? key))) key

theorem DistinctKeys.insertPath {new : Value} (distinct : a.DistinctKeys) (distinctNew : new.DistinctKeys)
    (path : List String) : (a.insertPath path new).DistinctKeys :=
  alike_self_iff.mp ((alike_self distinct).insertPath (alike_self distinctNew) path)

theorem Alike.takePath? (alike : Alike a b) (path : List String) :
    Option.Rel (fun x y => Alike x.1 y.1 ∧ Alike x.2 y.2) (a.takePath? path) (b.takePath? path) := by
  induction path generalizing a b with
  | nil =>
    rw [Value.takePath?, Value.takePath?]
    exact .none
  | cons key rest ih =>
    cases rest with
    | nil =>
      rw [Value.takePath?, Value.takePath?]
      exact rel_map (alike.get? key) fun _ _ taken => ⟨taken, alike.entries.erase key⟩
    | cons next more =>
      rw [Value.takePath?, Value.takePath?]
      refine rel_bind (alike.get? key) fun _ _ child => ?_
      exact rel_map (ih child) fun _ _ taken => ⟨taken.1, alike.entries.insert taken.2 key⟩

end BuildConfig.Value
