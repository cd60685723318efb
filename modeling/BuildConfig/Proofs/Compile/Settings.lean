import BuildConfig.Compile
import BuildConfig.Proofs.Compile.Layers

namespace BuildConfig

open Value (notNull?)

/-- The type of project that a value under `type` stands for. -/
def typeNamed : Option Value → Except Failure (Option ProjectType)
  | some (.string name) =>
    match ProjectType.ofName? name with
    | some type => .ok (some type)
    | none => .error (.unknownProjectType name)
  | _ => .ok none

theorem ofName?_name (type : ProjectType) : ProjectType.ofName? type.name = some type := by
  cases type <;> rfl

/-- What stands under `type` in a conforming tree: nothing, or the name of a type. -/
theorem Layer.typeNamed {plugins : Preprocessors} {tree : Value} (layer : Layer plugins tree) :
    ∃ type, BuildConfig.typeNamed (tree.get? "type") = .ok type ∧
      notNull? (tree.get? "type") = type.map fun type => .string type.name := by
  have declares : (Schema.userConfig plugins).Declares ["type"]
      (Schema.ofChoices (ProjectType.all.map ProjectType.name)) := Schema.declares_record rfl .here
  cases set : notNull? (tree.get? "type") with
  | none =>
    refine ⟨none, ?_, rfl⟩
    cases found : tree.get? "type" with
    | none => rfl
    | some value => rw [Value.notNull?_eq_none_iff.mp set value found]; rfl
  | some value =>
    obtain ⟨found, notNull⟩ := Value.notNull?_eq_some_iff.mp set
    have conforms := declares.conforms_getPath? layer.conforms ((Value.getPath?_single tree "type").trans found) notNull
    obtain ⟨name, listed, rfl⟩ := (Schema.conforms_ofChoices_iff (by simp [ProjectType.all])).mp conforms
    obtain ⟨type, _, rfl⟩ := List.mem_map.mp listed
    refine ⟨some type, ?_, rfl⟩
    rw [found, BuildConfig.typeNamed, ofName?_name]

/-- Every key of a conforming tree is that of a namespace, or `type`. -/
theorem Layer.key_cases {plugins : Preprocessors} {tree child : Value} (layer : Layer plugins tree) {key : String}
    (found : tree.get? key = some child) : key = "type" ∨ key ∈ namespaces := by
  obtain ⟨entries, rfl⟩ := Value.isMap_iff.mp (Value.isMap_of_get?_eq_some found)
  have conforms := layer.conforms
  rw [Schema.userConfig, Schema.record_node,
    Schema.conforms_map_iff (Alternatives.noExceptions_scalar.map _)] at conforms
  obtain ⟨_, known, _⟩ := conforms
  have listed := known.resolve_left (by simp) key (Entries.mem_keys_iff.mpr ⟨child, found⟩)
  rw [Entries.mem_keys_assign] at listed
  simpa [namespaces] using listed

namespace Settings

/-- The namespaces of a tree, beside a type. -/
def split (type : Option ProjectType) (tree : Value) : Settings :=
  let entriesOf (name : String) := ((tree.get? name).getD .empty).entries
  ⟨type, entriesOf "babel", entriesOf "devServer", entriesOf "karma", entriesOf "npm", entriesOf "webpack"⟩

theorem ofValue_eq (tree : Value) :
    ofValue tree = (typeNamed (tree.get? "type")).map fun type => split type tree := by
  unfold ofValue
  cases tree.get? "type" with
  | none => rfl
  | some value =>
    cases value with
    | string name =>
      cases named : ProjectType.ofName? name <;> simp only [typeNamed, named] <;> rfl
    | _ => rfl

/-- The tree of the settings has a map for each namespace and the name of the type, if there is one. -/
theorem get?_toValue_split (type : Option ProjectType) (tree : Value) (key : String) :
    (split type tree).toValue.get? key =
      if key = "type" then type.map fun type => .string type.name
      else if key ∈ namespaces then some (.map ((tree.get? key).getD .empty).entries) else none := by
  rw [toValue, Value.get?_map, Entries.get?_append]
  by_cases isType : key = "type"
  · subst key
    cases type <;> rfl
  rw [if_neg isType]
  have skipped : Entries.get? (match type with
      | some type => [("type", Value.string type.name)]
      | none => []) key = none := by
    cases type <;> simp [Entries.get?, Ne.symm isType]
  refine (congrArg (Option.or · _) skipped).trans ?_
  rw [Option.none_or]
  by_cases listed : key ∈ namespaces
  · rw [if_pos listed]
    simp only [namespaces, List.mem_cons, List.not_mem_nil, or_false] at listed
    rcases listed with rfl | rfl | rfl | rfl | rfl <;> rfl
  · rw [if_neg listed, Entries.get?_eq_none_iff]
    exact listed

theorem distinct_toValue (settings : Settings) : Entries.Distinct settings.toValue.entries := by
  cases settings with
  | mk type => cases type <;> simp [toValue, Entries.Distinct]

/-- Splitting a complete tree into settings loses nothing but nulls. -/
theorem get?_toValue {plugins : Preprocessors} {tree : Value} (complete : Complete plugins tree)
    {type : Option ProjectType} (named : notNull? (tree.get? "type") = type.map fun type => .string type.name)
    (key : String) : (split type tree).toValue.get? key = notNull? (tree.get? key) := by
  rw [get?_toValue_split]
  split
  · rename_i isType
    rw [isType, named]
  · rename_i notType
    split
    · rename_i listed
      obtain ⟨entries, atKey⟩ := complete.namespaces key listed
      rw [atKey, Value.notNull?_some (by simp)]
      rfl
    · rename_i unlisted
      cases found : tree.get? key with
      | none => rfl
      | some child =>
        exact ((complete.toLayer.key_cases found).elim notType unlisted).elim

end Settings

end BuildConfig
