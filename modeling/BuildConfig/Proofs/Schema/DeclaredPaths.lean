import BuildConfig.Proofs.Schema.UserSchema
import BuildConfig.Proofs.Value.Edits
import BuildConfig.Hoist

namespace BuildConfig.Schema

/-- A path of declared fields leads from one node to another. On the way maps are free to be empty,
so a field can be set before its siblings are. -/
inductive Declares : Schema → List String → Schema → Prop
  | here {target : Schema} : Declares target [] target
  | field {accepted : Alternatives} {fields : List (String × Schema)} {unknownKeys : UnknownKeys}
      {requireAny : List String} {items values : Option Schema} {name : String} {child target : Schema}
      {rest : List String}
      (scalar : accepted.ScalarExceptions)
      (distinct : Entries.Distinct fields)
      (declared : Entries.get? fields name = some child)
      (empty : Conforms (.node accepted fields unknownKeys requireAny items values none) .empty)
      (below : Declares child rest target) :
      Declares (.node accepted fields unknownKeys requireAny items values none) (name :: rest) target

theorem Declares.conforms_empty {schema target : Schema} {path : List String} (nonempty : path ≠ [])
    (declares : schema.Declares path target) : Conforms schema .empty := by
  cases declares with
  | here => exact absurd rfl nonempty
  | field _ _ _ empty => exact empty

/-- What a conforming tree holds at a declared path conforms to the node there, nulls apart. -/
theorem Declares.conforms_getPath? {schema target : Schema} {path : List String} {config value : Value}
    (declares : schema.Declares path target) (conforms : Conforms schema config)
    (found : config.getPath? path = some value) (notNull : value ≠ .null) : Conforms target value := by
  induction declares generalizing config with
  | here =>
    rw [Value.getPath?_nil, Option.some.injEq] at found
    exact found ▸ conforms
  | @field accepted fields unknownKeys requireAny items values name child target rest scalar _ declared _ _ ih =>
    rw [Value.getPath?_cons] at found
    obtain ⟨middle, atName, below⟩ := Option.bind_eq_some_iff.mp found
    cases config with
    | map entries =>
      rw [conforms_map_iff (scalar.map _)] at conforms
      obtain ⟨_, _, _, fieldsConform, _⟩ := conforms
      have middleNotNull : middle ≠ .null := by
        rintro rfl
        cases rest with
        | nil =>
          rw [Value.getPath?_nil, Option.some.injEq] at below
          exact notNull below.symm
        | cons => simp [Value.getPath?, Value.get?, Value.entries, Entries.get?] at below
      exact ih (fieldsConform name child (Entries.mem_of_get? declared) middle atName middleNotNull) below
    | _ => simp [Value.get?, Value.entries, Entries.get?] at atName

/-- Setting a declared field of a conforming map to a conforming value gives a conforming map. -/
theorem conforms_insert {accepted : Alternatives} {fields : List (String × Schema)}
    {unknownKeys : UnknownKeys} {requireAny : List String} {items values : Option Schema} {name : String}
    {child : Schema} {entries : Entries Value} {value : Value} (scalar : accepted.ScalarExceptions)
    (distinct : Entries.Distinct fields) (declared : Entries.get? fields name = some child)
    (conforms : Conforms (.node accepted fields unknownKeys requireAny items values none) (.map entries))
    (new : Conforms child value) :
    Conforms (.node accepted fields unknownKeys requireAny items values none)
      (.map (Entries.insert entries name value)) := by
  have isDeclared := Entries.mem_of_get? declared
  rw [conforms_map_iff (scalar.map _)] at conforms ⊢
  obtain ⟨admitted, known, required, fieldsConform, othersConform⟩ := conforms
  refine ⟨admitted.map _, ?_, ?_, ?_, ?_⟩
  · refine known.imp_right fun known key held => ?_
    rcases Entries.mem_keys_insert.mp held with rfl | older
    · exact Entries.mem_keys_of_mem isDeclared
    · exact known key older
  · exact required.imp_right fun ⟨key, listed, present⟩ =>
      ⟨key, listed, Entries.mem_keys_insert.mpr (Or.inr present)⟩
  · intro other field declaredOther held found notNull
    rw [Entries.get?_insert] at found
    split at found
    · rename_i same
      subst same
      cases Option.some.inj ((distinct.get?_of_mem declaredOther).symm.trans declared)
      exact Option.some.inj found ▸ new
    · exact fieldsConform other field declaredOther held found notNull
  · intro other isOther key held inserted notDeclared
    rcases Entries.mem_insert_cases inserted with here | older
    · cases here
      exact (notDeclared (Entries.mem_keys_of_mem isDeclared)).elim
    · exact othersConform other isOther key held older notDeclared

/-- A conforming value can be put at a declared path of every conforming tree, and of what is no map
to begin with. -/
theorem Declares.conforms_insertPath {schema target : Schema} {path : List String} {config value : Value}
    (declares : schema.Declares path target) (old : config = .null ∨ Conforms schema config)
    (new : Conforms target value) : Conforms schema (config.insertPath path value) := by
  induction declares generalizing config with
  | here => simpa only [Value.insertPath] using new
  | @field accepted fields unknownKeys requireAny items values name child target rest scalar distinct declared
      empty below ih =>
    have entriesConform :
        Conforms (.node accepted fields unknownKeys requireAny items values none) (.map config.entries) := by
      cases config with
      | map entries => exact old.resolve_left (by simp)
      | _ => exact empty
    rw [Value.insertPath]
    refine conforms_insert scalar distinct declared entriesConform ?_
    by_cases last : rest = []
    · subst last
      cases below
      simpa only [Value.insertPath] using new
    apply ih _ new
    cases set : Value.notNull? (config.get? name) with
    | none =>
      cases atName : config.get? name with
      | none => exact Or.inr (below.conforms_empty last)
      | some middle => exact Or.inl (Value.notNull?_eq_none_iff.mp set middle atName)
    | some middle =>
      obtain ⟨atName, middleNotNull⟩ := Value.notNull?_eq_some_iff.mp set
      rw [atName]
      rw [conforms_map_iff (scalar.map _)] at entriesConform
      obtain ⟨_, _, _, fieldsConform, _⟩ := entriesConform
      exact Or.inr (fieldsConform name child (Entries.mem_of_get? declared) middle atName middleNotNull)

/-- A change of the map at a declared path that keeps to the node there keeps the whole tree to its
schema. -/
theorem Declares.conforms_updateMap {schema target : Schema} {path : List String} {config : Value}
    {change : Entries Value → Entries Value} (declares : schema.Declares path target)
    (conforms : Conforms schema config)
    (keeps : ∀ entries, Conforms target (.map entries) → Conforms target (.map (change entries))) :
    Conforms schema (config.updateMap path change) := by
  unfold Value.updateMap
  split
  · rename_i entries found
    exact declares.conforms_insertPath (Or.inr conforms)
      (keeps entries (declares.conforms_getPath? conforms found (by simp)))
  · exact conforms

theorem record_node {fields : List (String × Schema)} : record.withFields fields =
    .node ⟨[.object], [], [], none⟩ (Entries.assign [] fields) (.reject unexpectedProps) [] none none none :=
  withFields_node

/-- Every declared field of a closed record is a step of a path. -/
theorem declares_record {fields : List (String × Schema)} {name : String} {child target : Schema}
    {rest : List String} (declared : Entries.get? (Entries.assign [] fields) name = some child)
    (below : child.Declares rest target) : (record.withFields fields).Declares (name :: rest) target := by
  rw [record_node]
  refine .field Alternatives.noExceptions_scalar (Entries.distinct_nil.assign fields) declared ?_ below
  rw [Value.empty, conforms_map_iff (Alternatives.noExceptions_scalar.map _)]
  exact ⟨Or.inr ⟨.object, by simp, rfl⟩, by simp, by simp, by simp [Entries.get?], by simp⟩

/-- A place that asks for a map and for nothing else holds one. -/
theorem isMap_of_object_node {fields : List (String × Schema)} {unknownKeys : UnknownKeys} {requireAny : List String}
    {items values singleEntry : Option Schema} {value : Value} (conforms :
      Conforms (.node ⟨[.object], [], [], none⟩ fields unknownKeys requireAny items values singleEntry) value) :
    value.isMap = true := by
  rcases conforms.passes with ⟨_, listed, _⟩ | ⟨choices, _⟩ | ⟨noKinds, _⟩ | ⟨kind, listed, accepts⟩
  · cases listed
  · exact absurd rfl choices
  · cases noKinds
  · cases List.mem_singleton.mp listed
    cases value <;> first | rfl | cases accepts

theorem isMap_of_record {fields : List (String × Schema)} {value : Value}
    (conforms : Conforms (record.withFields fields) value) : value.isMap = true := by
  rw [record_node] at conforms
  exact isMap_of_object_node conforms

/-- Under a key that a closed record does not declare a conforming tree holds nothing. -/
theorem Declares.getPath?_undeclared {schema : Schema} {fields : List (String × Schema)} {path : List String}
    {key : String} {config : Value} (declares : schema.Declares path (record.withFields fields))
    (conforms : Conforms schema config) (undeclared : key ∉ Entries.keys fields) :
    config.getPath? (path ++ [key]) = none := by
  rw [Value.getPath?_concat]
  cases held : config.getPath? path with
  | none => rfl
  | some holder =>
    rw [Option.bind_some]
    cases holder with
    | map entries =>
      have inside := declares.conforms_getPath? conforms held (by simp)
      rw [record_node, conforms_map_iff (Alternatives.noExceptions_scalar.map _)] at inside
      obtain ⟨_, known, _⟩ := inside
      refine Entries.get?_eq_none_iff.mpr fun present => ?_
      have declared := known.resolve_left (by simp) key present
      exact (Entries.mem_keys_assign.mp declared).elim undeclared (by simp)
    | _ => rfl

/-- Where maps alone are asked for and nothing but `false` is excepted, there is a map or `false`. -/
theorem Conforms.isMap_or_eq_false {schema : Schema} {exceptions : List Value} {value : Value}
    (conforms : Conforms schema value) (accepted : schema.accepted = ⟨[.object], [], exceptions, none⟩)
    (onlyFalse : ∀ exception ∈ exceptions, exception = .bool false) : value.isMap = true ∨ value = .bool false := by
  obtain ⟨alternatives, fields, unknownKeys, requireAny, items, values, singleEntry⟩ := schema
  cases accepted
  rcases conforms.passes with ⟨exception, listed, same⟩ | ⟨choices, _⟩ | ⟨noKinds, _⟩ | ⟨kind, listed, accepts⟩
  · rw [onlyFalse exception listed] at same
    cases value with
    | bool held => exact Or.inr (by simpa [Value.same] using same)
    | _ => simp [Value.same] at same
  · exact absurd rfl choices
  · cases noKinds
  · cases List.mem_singleton.mp listed
    cases value <;> first | exact Or.inl rfl | cases accepts

theorem conforms_ofChoices_iff {choices : List String} {value : Value} (some : choices ≠ []) :
    Conforms (ofChoices choices) value ↔ ∃ text ∈ choices, value = .string text := by
  constructor
  · intro conforms
    rcases Conforms.passes conforms with ⟨_, listed, _⟩ | ⟨_, _, chosen⟩ | ⟨_, noChoices⟩ | ⟨_, listed, _⟩
    · cases listed
    · exact chosen
    · exact absurd noChoices some
    · cases listed
  · intro chosen
    exact .chosen ⟨some, by simp [Alternatives.any], chosen⟩

end BuildConfig.Schema
