import BuildConfig.Proofs.Merge.Lookup
import BuildConfig.Proofs.Schema.UserSchema

namespace BuildConfig

namespace Schema

/-- Wherever two maps can meet in a merge, the schema asks for no single entry and excepts no map.
What arrays hold is never merged, so items are free. -/
inductive Mergeable : Schema → Prop
  | node {accepted : Alternatives} {fields : List (String × Schema)} {unknownKeys : UnknownKeys}
      {requireAny : List String} {items values : Option Schema}
      (here : accepted.ScalarExceptions)
      (inFields : ∀ name field, (name, field) ∈ fields → Mergeable field)
      (inValues : ∀ other, values = some other → Mergeable other) :
      Mergeable (.node accepted fields unknownKeys requireAny items values none)

variable (strategy : MergeStrategy)

/-- Laying one conforming tree over another gives a conforming tree. -/
theorem Mergeable.conforms_mergeAt {schema : Schema} (mergeable : schema.Mergeable) (path : List String)
    {base overlay : Value} (below : base.DistinctKeys) (above : overlay.DistinctKeys)
    (lower : Conforms schema base) (upper : Conforms schema overlay) :
    Conforms schema (Value.mergeAt strategy path base overlay) := by
  induction mergeable generalizing path base overlay with
  | @node accepted fields unknownKeys requireAny items values here _ _ inFields inValues =>
    by_cases null : overlay = .null
    · rw [null, Value.mergeAt_null]
      exact lower
    by_cases maps : base.isMap = true ∧ overlay.isMap = true
    · obtain ⟨old, rfl⟩ := Value.isMap_iff.mp maps.1
      obtain ⟨new, rfl⟩ := Value.isMap_iff.mp maps.2
      obtain ⟨distinctOld, insideOld⟩ := Value.distinctKeys_map.mp below
      obtain ⟨distinctNew, insideNew⟩ := Value.distinctKeys_map.mp above
      rw [conforms_map_iff (here.map _)] at lower upper
      obtain ⟨admitted, knownOld, requiredOld, declaredOld, undeclaredOld⟩ := lower
      obtain ⟨_, knownNew, _, declaredNew, undeclaredNew⟩ := upper
      rw [Value.mergeAt_map, conforms_map_iff (here.map _)]
      refine ⟨admitted.map _, ?_, ?_, ?_, ?_⟩
      · rcases knownOld with allowed | knownOld
        · exact Or.inl allowed
        refine knownNew.imp_right fun knownNew key held => ?_
        rcases Value.mem_keys_mergeEntries strategy path held with older | newer
        · exact knownOld key older
        · exact knownNew key newer
      · refine requiredOld.imp_right fun ⟨key, listed, present⟩ => ⟨key, listed, ?_⟩
        exact Value.keys_subset_mergeEntries strategy path present new
      · intro name field declared child found notNull
        rw [Value.get?_mergeEntries strategy path old distinctNew] at found
        rcases Value.mergeUnder_cases strategy _ found with
          kept | ⟨set, atName, setNotNull, ⟨_, rfl⟩ | ⟨existing, wasAt, rfl⟩⟩
        · exact declaredOld name field declared child kept notNull
        · exact declaredNew name field declared child atName setNotNull
        · by_cases wasNull : existing = .null
          · rw [wasNull, Value.mergeAt_over_null]
            exact declaredNew name field declared set atName setNotNull
          · exact inFields name field declared _ (insideOld name existing wasAt) (insideNew name set atName)
              (declaredOld name field declared existing wasAt wasNull)
              (declaredNew name field declared set atName setNotNull)
      · intro other isOther key child held notDeclared
        have found := (Value.distinct_mergeEntries strategy path distinctOld new).get?_of_mem held
        rw [Value.get?_mergeEntries strategy path old distinctNew] at found
        rcases Value.mergeUnder_cases strategy _ found with
          kept | ⟨set, atKey, _, ⟨_, rfl⟩ | ⟨existing, wasAt, rfl⟩⟩
        · exact undeclaredOld other isOther key child (Entries.mem_of_get? kept) notDeclared
        · exact undeclaredNew other isOther key child (Entries.mem_of_get? atKey) notDeclared
        · exact inValues other isOther _ (insideOld key existing wasAt) (insideNew key set atKey)
            (undeclaredOld other isOther key existing (Entries.mem_of_get? wasAt) notDeclared)
            (undeclaredNew other isOther key set (Entries.mem_of_get? atKey) notDeclared)
    by_cases arrays : base.isArray = true ∧ overlay.isArray = true
    · obtain ⟨old, rfl⟩ := Value.isArray_iff.mp arrays.1
      obtain ⟨new, rfl⟩ := Value.isArray_iff.mp arrays.2
      rw [conforms_array_iff (here.array _)] at lower upper
      rw [Value.mergeAt_array, conforms_array_iff (here.array _)]
      refine ⟨lower.1.array _, fun item isItem member held => ?_⟩
      split at held
      · rcases List.mem_append.mp held with older | newer
        · exact lower.2 item isItem member older
        · exact upper.2 item isItem member newer
      · exact upper.2 item isItem member held
    · rw [Value.mergeAt_covered strategy path null (by simpa using maps) (by simpa using arrays)]
      exact upper

theorem mergeable_leaf {accepted : Alternatives} {unknownKeys : UnknownKeys} {requireAny : List String}
    {items : Option Schema} (plain : accepted.Plain) :
    (Schema.node accepted [] unknownKeys requireAny items none none).Mergeable :=
  .node plain.scalarExceptions (by simp) (by simp)

theorem Mergeable.withFields {schema : Schema} {more : List (String × Schema)} (whole : schema.Mergeable)
    (parts : ∀ declaration ∈ more, declaration.2.Mergeable) : (schema.withFields more).Mergeable := by
  obtain ⟨here, inFields, inValues⟩ := whole
  rw [withFields_node]
  refine .node here (fun name field held => ?_) inValues
  rcases Entries.mem_assign_cases held with added | before
  · exact parts (name, field) added
  · exact inFields name field before

theorem Mergeable.withValues {schema other : Schema} (whole : schema.Mergeable) (part : other.Mergeable) :
    (schema.withValues other).Mergeable := by
  obtain ⟨here, inFields, _⟩ := whole
  exact .node here inFields (by simpa using part)

theorem Mergeable.withItems {schema : Schema} (whole : schema.Mergeable) (item : Schema) :
    (schema.withItems item).Mergeable := by
  obtain ⟨here, inFields, inValues⟩ := whole
  exact .node here inFields inValues

theorem Mergeable.requiringAny {schema : Schema} (whole : schema.Mergeable) (keys : List String) :
    (schema.requiringAny keys).Mergeable := by
  obtain ⟨here, inFields, inValues⟩ := whole
  exact .node here inFields inValues

theorem composable_mergeable : Composable Mergeable where
  leaf := mergeable_leaf
  withFields := Mergeable.withFields
  withItems whole _ := whole.withItems _
  withValues := Mergeable.withValues
  requiringAny keys whole := whole.requiringAny keys
  testPluginList := by
    have array : (ofKind .array).Mergeable := mergeable_leaf ⟨by simp [Alternatives.any], fun _ => rfl⟩
    exact array.withItems testPlugin

theorem mergeable_userConfig (plugins : Preprocessors) : (userConfig plugins).Mergeable :=
  composable_mergeable.userConfig plugins

end Schema

end BuildConfig
