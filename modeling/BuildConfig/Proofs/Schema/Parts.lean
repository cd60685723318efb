import BuildConfig.Proofs.Schema.UserSchema
import BuildConfig.Proofs.Value.Walks

namespace BuildConfig.Schema

/-- No node holds a field twice, as the fields of a node are a table by their names. The node for a
single entry is left out: it is never looked into. -/
inductive Keyed : Schema → Prop
  | node {accepted : Alternatives} {fields : List (String × Schema)} {unknownKeys : UnknownKeys}
      {requireAny : List String} {items values singleEntry : Option Schema}
      (distinct : Entries.Distinct fields)
      (inFields : ∀ name field, (name, field) ∈ fields → Keyed field)
      (inItems : ∀ item, items = some item → Keyed item)
      (inValues : ∀ other, values = some other → Keyed other) :
      Keyed (.node accepted fields unknownKeys requireAny items values singleEntry)

theorem composable_keyed : Composable Keyed where
  leaf _ := .node Entries.distinct_nil (by simp) (by simp) (by simp)
  withFields := by
    intro schema more whole parts
    obtain ⟨distinct, inFields, inItems, inValues⟩ := whole
    rw [withFields_node]
    refine .node (distinct.assign more) (fun name field held => ?_) inItems inValues
    rcases Entries.mem_assign_cases held with added | before
    · exact parts (name, field) added
    · exact inFields name field before
  withItems := by
    intro schema item whole part
    obtain ⟨distinct, inFields, _, inValues⟩ := whole
    exact .node distinct inFields (by simpa using part) inValues
  withValues := by
    intro schema other whole part
    obtain ⟨distinct, inFields, inItems, _⟩ := whole
    exact .node distinct inFields inItems (by simpa using part)
  requiringAny := by
    intro schema keys whole
    obtain ⟨distinct, inFields, inItems, inValues⟩ := whole
    exact .node distinct inFields inItems inValues
  testPluginList := by
    have leaf {accepted : Alternatives} {singleEntry : Option Schema} :
        (Schema.node accepted [] .allow [] none none singleEntry).Keyed :=
      .node Entries.distinct_nil (by simp) (by simp) (by simp)
    refine .node Entries.distinct_nil (by simp) (fun item isItem => ?_) (by simp)
    cases isItem
    exact leaf

theorem keyed_userConfig (plugins : Preprocessors) : (userConfig plugins).Keyed :=
  composable_keyed.userConfig plugins

/-- The node that a check goes on with one step further inside. A declared field goes before the
node for the other keys. -/
def child? : Schema → Segment → Option Schema
  | .node _ fields _ _ _ values _, .key name => (Entries.get? fields name).or values
  | .node _ _ _ _ items _ _, .index _ => items

/-- The node that a check comes to by following steps. -/
def walk? (schema : Schema) : List Segment → Option Schema
  | [] => some schema
  | step :: rest => (schema.child? step).bind fun child => child.walk? rest

theorem walk?_nil (schema : Schema) : schema.walk? [] = some schema := by
  rw [walk?]

theorem walk?_cons (schema : Schema) (step : Segment) (rest : List Segment) :
    schema.walk? (step :: rest) = (schema.child? step).bind fun child => child.walk? rest := by
  rw [walk?]

/-- A part of a value that its check goes on with: the step to it, the node that it is checked
against, and the part itself. -/
structure Part where
  step : Segment
  node : Schema
  value : Value

def fieldParts (fields : List (String × Schema)) (entries : Entries Value) : List Part :=
  fields.filterMap fun (name, field) =>
    (Value.notNull? (Entries.get? entries name)).map fun child => ⟨.key name, field, child⟩

def undeclaredParts (fields : List (String × Schema)) (entries : Entries Value) : Option Schema → List Part
  | none => []
  | some other => entries.filterMap fun (key, child) =>
      if Entries.contains fields key then none else some ⟨.key key, other, child⟩

def itemParts (members : List Value) : Option Schema → List Part
  | none => []
  | some item => members.zipIdx.map fun (member, position) => ⟨.index position, item, member⟩

/-- The parts of a value that its check goes on with, in the order in which it does. There are none
where the check ends with the value itself. -/
def parts : Schema → Value → List Part
  | .node accepted fields _ _ items values singleEntry, value =>
    match accepted.verdict value with
    | .passes => []
    | .rejected _ _ => []
    | .lookInside =>
      match value, singleEntry with
      | .map entries, none => fieldParts fields entries ++ undeclaredParts fields entries values
      | .array members, _ => itemParts members items
      | _, _ => []

/-- What a check finds wrong with the value itself, whatever its parts are like. -/
def ownFindings : Schema → Path → Value → List Finding
  | .node accepted fields unknownKeys requireAny _ _ singleEntry, path, value =>
    match accepted.verdict value with
    | .passes => []
    | .rejected message meant => rejection path value message meant
    | .lookInside =>
      match value, singleEntry with
      | .map entries, some entry => (singleEntryProblems entry accepted.kindMessage path entries).map .problem
      | .map entries, none =>
        unknownKeyFindings unknownKeys (Entries.keys fields) path entries
          ++ requiredKeyFindings requireAny path entries
      | _, _ => []

section Equation

variable {fields : List (String × Schema)} {entries : Entries Value}

theorem fieldFindings_eq (fields : List (String × Schema)) (path : Path) (entries : Entries Value) :
    fieldFindings fields path entries =
      (fieldParts fields entries).flatMap fun part => part.node.findings (path.extend [part.step]) part.value := by
  induction fields with
  | nil => rfl
  | cons declaration rest ih =>
    obtain ⟨name, field⟩ := declaration
    rw [fieldFindings_cons, ih, fieldParts, fieldParts, List.filterMap_cons]
    cases set : Value.notNull? (Entries.get? entries name) <;> simp [set, Path.key_eq_extend]

theorem undeclaredFindings_eq (fields : List (String × Schema)) (path : Path) (entries : Entries Value)
    (values : Option Schema) :
    undeclaredFindings fields path entries values =
      (undeclaredParts fields entries values).flatMap fun part =>
        part.node.findings (path.extend [part.step]) part.value := by
  cases values with
  | none => rfl
  | some other =>
    rw [undeclaredFindings, undeclaredParts]
    induction entries with
    | nil => rfl
    | cons entry rest ih =>
      obtain ⟨key, child⟩ := entry
      rw [List.flatMap_cons, ih, List.filterMap_cons]
      by_cases declared : Entries.contains fields key = true <;> simp [declared, Path.key_eq_extend]

theorem itemFindings_eq (path : Path) (members : List Value) (items : Option Schema) :
    itemFindings path members items =
      (itemParts members items).flatMap fun part => part.node.findings (path.extend [part.step]) part.value := by
  cases items with
  | none => rfl
  | some item =>
    rw [itemFindings, itemParts, List.flatMap_map]
    rfl

/-- A check says what there is to say about the value itself and then goes on with its parts. -/
theorem findings_eq (schema : Schema) (path : Path) (value : Value) :
    schema.findings path value = schema.ownFindings path value ++
      (schema.parts value).flatMap fun part => part.node.findings (path.extend [part.step]) part.value := by
  cases schema with
  | node accepted fields unknownKeys requireAny items values singleEntry =>
    cases verdict : accepted.verdict value with
    | passes =>
      rw [findings_of_passes _ _ _ _ _ _ _ verdict]
      simp only [ownFindings, parts, verdict, List.flatMap_nil, List.append_nil]
    | rejected message meant =>
      rw [findings_of_rejected _ _ _ _ _ _ _ verdict]
      simp only [ownFindings, parts, verdict, List.flatMap_nil, List.append_nil]
    | lookInside =>
      cases value with
      | map entries =>
        cases singleEntry with
        | some entry =>
          rw [findings_singleEntry _ _ _ _ _ _ verdict]
          simp only [ownFindings, parts, verdict, List.flatMap_nil, List.append_nil]
        | none =>
          rw [findings_map _ _ _ _ _ _ verdict, fieldFindings_eq, undeclaredFindings_eq, List.append_assoc,
            ← List.flatMap_append]
          simp only [ownFindings, parts, verdict]
      | array members =>
        rw [findings_array _ _ _ _ _ _ _ verdict, itemFindings_eq]
        simp only [ownFindings, parts, verdict, List.nil_append]
      | _ =>
        rw [findings_scalar _ _ _ _ _ _ _ verdict rfl rfl]
        simp only [ownFindings, parts, verdict, List.flatMap_nil, List.append_nil]

end Equation

section Places

variable {fields : List (String × Schema)} {entries : Entries Value} {part : Part}

theorem mem_fieldParts_iff :
    part ∈ fieldParts fields entries ↔
      ∃ name, (name, part.node) ∈ fields ∧ Value.notNull? (Entries.get? entries name) = some part.value ∧
        part.step = .key name := by
  simp only [fieldParts, List.mem_filterMap, Option.map_eq_some_iff, Prod.exists]
  constructor
  · rintro ⟨name, field, declared, child, set, rfl⟩
    exact ⟨name, declared, set, rfl⟩
  · rintro ⟨name, declared, set, at_name⟩
    obtain ⟨step, node, value⟩ := part
    cases at_name
    exact ⟨name, node, declared, value, set, rfl⟩

theorem mem_undeclaredParts_iff {values : Option Schema} :
    part ∈ undeclaredParts fields entries values ↔
      values = some part.node ∧ ∃ key, (key, part.value) ∈ entries ∧ key ∉ Entries.keys fields ∧
        part.step = .key key := by
  cases values with
  | none => simp [undeclaredParts]
  | some other =>
    simp only [undeclaredParts, List.mem_filterMap, Prod.exists, Option.some.injEq]
    constructor
    · rintro ⟨key, child, held, kept⟩
      split at kept
      · cases kept
      · rename_i undeclared
        cases kept
        exact ⟨rfl, key, held, mt Entries.contains_iff_mem.mpr undeclared, rfl⟩
    · rintro ⟨rfl, key, held, undeclared, at_key⟩
      refine ⟨key, part.value, held, ?_⟩
      rw [if_neg (mt Entries.contains_iff_mem.mp undeclared), ← at_key]

theorem mem_itemParts_iff {members : List Value} {items : Option Schema} :
    part ∈ itemParts members items ↔
      items = some part.node ∧ ∃ position : Nat, members[position]? = some part.value ∧
        part.step = .index position := by
  cases items with
  | none => simp [itemParts]
  | some item =>
    simp only [itemParts, List.mem_map, Prod.exists, List.mk_mem_zipIdx_iff_getElem?, Option.some.injEq]
    constructor
    · rintro ⟨member, position, held, rfl⟩
      exact ⟨rfl, position, held, rfl⟩
    · rintro ⟨rfl, position, held, at_position⟩
      exact ⟨part.value, position, held, by rw [← at_position]⟩

theorem parts_cases {accepted : Alternatives} {unknownKeys : UnknownKeys} {requireAny : List String}
    {items values singleEntry : Option Schema} (value : Value) :
    parts (.node accepted fields unknownKeys requireAny items values singleEntry) value = [] ∨
      (∃ entries, value = .map entries ∧
        parts (.node accepted fields unknownKeys requireAny items values singleEntry) value =
          fieldParts fields entries ++ undeclaredParts fields entries values) ∨
      ∃ members, value = .array members ∧
        parts (.node accepted fields unknownKeys requireAny items values singleEntry) value =
          itemParts members items := by
  cases verdict : accepted.verdict value with
  | lookInside => cases value <;> cases singleEntry <;> simp [parts, verdict]
  | _ => simp [parts, verdict]

/-- A part is what lies one step inside of the value, and its node what lies one step inside of the
schema. -/
theorem reached_of_mem_parts {schema : Schema} {value : Value} (keyed : schema.Keyed)
    (distinct : value.DistinctKeys) (listed : part ∈ schema.parts value) :
    schema.child? part.step = some part.node ∧ value.child? part.step = some part.value := by
  obtain ⟨distinctFields, _, _, _⟩ := keyed
  rcases parts_cases value with none | ⟨entries, rfl, isMap⟩ | ⟨members, rfl, isArray⟩
  · rw [none] at listed
    cases listed
  · rw [isMap, List.mem_append, mem_fieldParts_iff, mem_undeclaredParts_iff] at listed
    rcases listed with ⟨name, declared, set, at_name⟩ | ⟨isOther, key, held, undeclared, at_key⟩
    · rw [at_name]
      exact ⟨by rw [child?, distinctFields.get?_of_mem declared, Option.some_or],
        (Value.notNull?_eq_some_iff.mp set).1⟩
    · rw [at_key]
      exact ⟨by rw [child?, Entries.get?_eq_none_iff.mpr undeclared, Option.none_or, isOther],
        (Value.distinctKeys_map.mp distinct).1.get?_of_mem held⟩
  · rw [isArray, mem_itemParts_iff] at listed
    obtain ⟨isItem, position, held, at_position⟩ := listed
    rw [at_position]
    exact ⟨isItem, held⟩

theorem Keyed.child? {schema node : Schema} {step : Segment} (keyed : schema.Keyed)
    (inside : schema.child? step = some node) : node.Keyed := by
  obtain ⟨_, inFields, inItems, inValues⟩ := keyed
  cases step with
  | key name =>
    rcases Option.or_eq_some_iff.mp inside with declared | ⟨_, other⟩
    · exact inFields name node (Entries.mem_of_get? declared)
    · exact inValues node other
  | index => exact inItems node inside

theorem map_filterMap_sublist {α β γ : Type} {pick : α → Option β} {label : β → γ} {name : α → γ}
    (labelled : ∀ a b, pick a = some b → label b = name a) (items : List α) :
    ((items.filterMap pick).map label).Sublist (items.map name) := by
  induction items with
  | nil => exact .slnil
  | cons item rest ih =>
    rw [List.filterMap_cons, List.map_cons]
    cases picked : pick item with
    | none => exact ih.cons _
    | some chosen =>
      rw [List.map_cons, labelled item chosen picked]
      exact ih.cons_cons _

theorem nodup_keySteps {α : Type} {table : List (String × α)} (distinct : Entries.Distinct table) :
    (table.map fun entry => Segment.key entry.1).Nodup := by
  have nodup : ((Entries.keys table).map Segment.key).Nodup :=
    List.Pairwise.map _ (fun _ _ different same => different (Segment.key.inj same)) distinct
  rwa [Entries.keys, List.map_map] at nodup

theorem nodup_fieldSteps (distinct : Entries.Distinct fields) (entries : Entries Value) :
    ((fieldParts fields entries).map Part.step).Nodup := by
  refine (nodup_keySteps distinct).sublist (map_filterMap_sublist (fun declaration part picked => ?_) _)
  obtain ⟨_, _, rfl⟩ := Option.map_eq_some_iff.mp picked
  rfl

theorem nodup_undeclaredSteps (fields : List (String × Schema)) (distinct : Entries.Distinct entries)
    (values : Option Schema) : ((undeclaredParts fields entries values).map Part.step).Nodup := by
  cases values with
  | none => exact List.nodup_nil
  | some other =>
    refine (nodup_keySteps distinct).sublist (map_filterMap_sublist (fun entry part picked => ?_) _)
    obtain ⟨key, child⟩ := entry
    dsimp only at picked
    split at picked
    · cases picked
    · cases picked
      rfl

theorem nodup_itemSteps (members : List Value) (items : Option Schema) :
    ((itemParts members items).map Part.step).Nodup := by
  cases items with
  | none => exact List.nodup_nil
  | some item =>
    have positions : (itemParts members (some item)).map Part.step = (members.zipIdx.map Prod.snd).map .index := by
      rw [itemParts, List.map_map, List.map_map]
      rfl
    rw [positions, List.zipIdx_map_snd]
    exact List.Pairwise.map _ (fun _ _ different same => different (Segment.index.inj same)) List.nodup_range'

/-- No two parts of a value lie at the same step. The keys of a map are distinct, the names of fields
are as well, and a key that is not declared is the name of none. -/
theorem nodup_steps {schema : Schema} {value : Value} (keyed : schema.Keyed) (distinct : value.DistinctKeys) :
    ((schema.parts value).map Part.step).Nodup := by
  obtain ⟨distinctFields, _, _, _⟩ := keyed
  rcases parts_cases value with none | ⟨entries, rfl, isMap⟩ | ⟨members, rfl, isArray⟩
  · rw [none]
    exact List.nodup_nil
  · rw [isMap, List.map_append, List.nodup_append]
    have distinctEntries := (Value.distinctKeys_map.mp distinct).1
    refine ⟨nodup_fieldSteps distinctFields entries, nodup_undeclaredSteps _ distinctEntries _, ?_⟩
    intro step inFields other inOthers same
    obtain ⟨field, listed, rfl⟩ := List.mem_map.mp inFields
    obtain ⟨part, among, rfl⟩ := List.mem_map.mp inOthers
    obtain ⟨name, declared, _, at_name⟩ := mem_fieldParts_iff.mp listed
    obtain ⟨_, key, _, undeclared, at_key⟩ := mem_undeclaredParts_iff.mp among
    rw [at_name, at_key] at same
    cases same
    exact undeclared (Entries.mem_keys_of_mem declared)
  · rw [isArray]
    exact nodup_itemSteps members _

end Places

end BuildConfig.Schema
