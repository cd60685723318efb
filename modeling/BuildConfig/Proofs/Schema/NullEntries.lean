import BuildConfig.Proofs.Schema.Diagnostics

namespace BuildConfig

namespace Schema

instance (schema : Schema) (entries : Entries Value) : Decidable (schema.Misses entries) :=
  match schema with
  | .node .. => inferInstanceAs (Decidable (_ ∧ _))

/-- Nothing is declared inside of what the node accepts. -/
def Bare (schema : Schema) : Prop :=
  ∀ step, schema.child? step = none

/-- No node asks for a single entry, save for items in which nothing is declared. -/
inductive FreeOfSingles : Schema → Prop
  | node {accepted : Alternatives} {fields : List (String × Schema)} {unknownKeys : UnknownKeys}
      {requireAny : List String} {items values : Option Schema}
      (inFields : ∀ name field, (name, field) ∈ fields → FreeOfSingles field)
      (inItems : ∀ item, items = some item → ¬item.Bare → FreeOfSingles item)
      (inValues : ∀ other, values = some other → FreeOfSingles other) :
      FreeOfSingles (.node accepted fields unknownKeys requireAny items values none)

theorem composable_freeOfSingles : Composable FreeOfSingles where
  leaf _ := .node (by simp) (by simp) (by simp)
  withFields := by
    intro schema more whole parts
    obtain ⟨inFields, inItems, inValues⟩ := whole
    rw [withFields_node]
    refine .node (fun name field held => ?_) inItems inValues
    rcases Entries.mem_assign_cases held with added | before
    · exact parts (name, field) added
    · exact inFields name field before
  withItems := by
    intro schema item whole part
    obtain ⟨inFields, _, inValues⟩ := whole
    refine .node inFields (fun other same => ?_) inValues
    cases same
    exact fun _ => part
  withValues := by
    intro schema other whole part
    obtain ⟨inFields, inItems, _⟩ := whole
    exact .node inFields inItems (by simpa using part)
  requiringAny := by
    intro schema keys whole
    obtain ⟨inFields, inItems, inValues⟩ := whole
    exact .node inFields inItems inValues
  testPluginList := by
    refine .node (by simp) (fun item same notBare => (notBare fun step => ?_).elim) (by simp)
    cases same
    cases step <;> rfl

/-- What holds of every node that a check of a user configuration comes to. -/
structure Regular (schema : Schema) : Prop where
  singles : schema.FreeOfSingles ∨ schema.Bare
  keyed : schema.Keyed
  plain : schema.Everywhere Alternatives.Plain

theorem regular_userConfig (plugins : Preprocessors) : (userConfig plugins).Regular :=
  ⟨Or.inl (composable_freeOfSingles.userConfig plugins), keyed_userConfig plugins, plain_userConfig plugins⟩

section Inside

variable {schema node : Schema} {step : Segment}

theorem FreeOfSingles.child? (singles : schema.FreeOfSingles) (inside : schema.child? step = some node) :
    node.FreeOfSingles ∨ node.Bare := by
  obtain ⟨inFields, inItems, inValues⟩ := singles
  cases step with
  | key name =>
    rcases Option.or_eq_some_iff.mp inside with declared | ⟨_, other⟩
    · exact Or.inl (inFields name node (Entries.mem_of_get? declared))
    · exact Or.inl (inValues node other)
  | index => exact or_iff_not_imp_right.mpr (inItems node inside)

theorem Everywhere.child? {holds : Alternatives → Prop} (everywhere : schema.Everywhere holds)
    (inside : schema.child? step = some node) : node.Everywhere holds := by
  obtain ⟨_, inFields, inItems, inValues, _⟩ := everywhere
  cases step with
  | key name =>
    rcases Option.or_eq_some_iff.mp inside with declared | ⟨_, other⟩
    · exact inFields name node (Entries.mem_of_get? declared)
    · exact inValues node other
  | index => exact inItems node inside

theorem Regular.freeOfSingles (regular : schema.Regular) (inside : schema.child? step = some node) :
    schema.FreeOfSingles := by
  refine regular.singles.resolve_right fun bare => ?_
  rw [bare step] at inside
  cases inside

theorem Regular.child? (regular : schema.Regular) (inside : schema.child? step = some node) : node.Regular :=
  ⟨(regular.freeOfSingles inside).child? inside, regular.keyed.child? inside, regular.plain.child? inside⟩

theorem Regular.walk? {steps : List Segment} (regular : schema.Regular) (reached : schema.walk? steps = some node) :
    node.Regular := by
  induction steps generalizing schema with
  | nil =>
    cases reached
    exact regular
  | cons step rest ih =>
    rw [walk?_cons] at reached
    obtain ⟨inner, inside, further⟩ := Option.bind_eq_some_iff.mp reached
    exact ih (regular.child? inside) further

end Inside

section Maps

variable {schema : Schema} {entries : Entries Value}

/-- What is under a key of a map conforms to what the node has for the key. A null under a declared key counts
as absent. -/
def ConformsInside (schema : Schema) (entries : Entries Value) (key : String) : Prop :=
  ∀ child node, Entries.get? entries key = some child → schema.child? (.key key) = some node →
    (child = .null → key ∉ schema.fieldNames) → Conforms node child

/-- A map conforms if it does as a whole and under each key. -/
theorem conforms_map_iff_inside (singles : schema.FreeOfSingles) (regular : schema.Regular)
    (distinct : Entries.Distinct entries) :
    Conforms schema (.map entries) ↔
      schema.accepted.Admits (.map entries) ∧ ¬schema.TurnsAway entries ∧ ¬schema.Misses entries ∧
        ∀ key, schema.ConformsInside entries key := by
  cases singles with
  | @node accepted fields unknownKeys requireAny items values =>
  obtain ⟨distinctFields, _, _, _⟩ := regular.keyed
  have scalar : accepted.ScalarExceptions := regular.plain.accepted.scalarExceptions
  have known : (unknownKeys = .allow ∨ ∀ key ∈ Entries.keys entries, key ∈ Entries.keys fields) ↔
      ¬TurnsAway (.node accepted fields unknownKeys requireAny items values none) entries := by
    simp [TurnsAway, or_iff_not_imp_left]
  have required : (requireAny = [] ∨ ∃ key ∈ requireAny, key ∈ Entries.keys entries) ↔
      ¬Misses (.node accepted fields unknownKeys requireAny items values none) entries := by
    simp [Misses, or_iff_not_imp_left]
  rw [conforms_map_iff (scalar.map entries), known, required]
  refine and_congr_right fun _ => and_congr_right fun _ => and_congr_right fun _ => ⟨?inside, ?apart⟩
  case inside =>
    rintro ⟨declared, undeclared⟩ key child node held atKey counts
    rcases Option.or_eq_some_iff.mp atKey with isField | ⟨notField, isOther⟩
    · have isDeclared := Entries.mem_of_get? isField
      exact declared key node isDeclared child held fun null => counts null (Entries.mem_keys_of_mem isDeclared)
    · exact undeclared node isOther key child (Entries.mem_of_get? held) (Entries.get?_eq_none_iff.mp notField)
  case apart =>
    intro all
    constructor
    · intro name field isField child held notNull
      refine all name child field held ?_ fun null => (notNull null).elim
      rw [child?, distinctFields.get?_of_mem isField, Option.some_or]
    · intro other isOther key child held undeclared
      refine all key child other (distinct.get?_of_mem held) ?_ fun _ => undeclared
      rw [child?, Entries.get?_eq_none_iff.mpr undeclared, Option.none_or, isOther]

variable {others : Entries Value} {key : String}

theorem turnsAway_congr (same : ∀ key, key ∈ Entries.keys entries ↔ key ∈ Entries.keys others) :
    schema.TurnsAway entries ↔ schema.TurnsAway others := by
  cases schema
  simp only [TurnsAway, same]

theorem misses_congr (same : ∀ key, key ∈ Entries.keys entries ↔ key ∈ Entries.keys others) :
    schema.Misses entries ↔ schema.Misses others := by
  cases schema
  simp only [Misses, same]

theorem conformsInside_congr (same : Entries.get? entries key = Entries.get? others key) :
    schema.ConformsInside entries key ↔ schema.ConformsInside others key := by
  simp only [ConformsInside, same]

theorem conformsInside_iff {child : Value} {node : Schema} (held : Entries.get? entries key = some child)
    (inside : schema.child? (.key key) = some node) (notNull : child ≠ .null) :
    schema.ConformsInside entries key ↔ Conforms node child := by
  simp [ConformsInside, held, inside, notNull]

/-- With another value under a key, a map conforms if everything else does and the new value as well. -/
theorem conforms_insert_iff {node : Schema} (regular : schema.Regular) (inside : schema.child? (.key key) = some node)
    (distinct : Entries.Distinct entries) (held : key ∈ Entries.keys entries) :
    ∃ rest : Prop, ∀ child, child ≠ .null →
      (Conforms schema (.map (Entries.insert entries key child)) ↔ rest ∧ Conforms node child) := by
  refine ⟨schema.accepted.Admits (.map entries) ∧ ¬schema.TurnsAway entries ∧ ¬schema.Misses entries ∧
    ∀ other ≠ key, schema.ConformsInside entries other, fun child notNull => ?_⟩
  have sameKeys : ∀ other, other ∈ Entries.keys (Entries.insert entries key child) ↔ other ∈ Entries.keys entries := by
    simp [Entries.keys_insert, held]
  have admits : schema.accepted.Admits (.map (Entries.insert entries key child)) ↔
      schema.accepted.Admits (.map entries) := ⟨fun admits => admits.map _, fun admits => admits.map _⟩
  have elsewhere : ∀ other ≠ key, schema.ConformsInside (Entries.insert entries key child) other ↔
      schema.ConformsInside entries other :=
    fun other different => conformsInside_congr (Entries.get?_insert_of_ne entries child different.symm)
  have here := conformsInside_iff (Entries.get?_insert_self entries key child) inside notNull
  rw [conforms_map_iff_inside (regular.freeOfSingles inside) regular (distinct.insert key child), admits,
    turnsAway_congr sameKeys, misses_congr sameKeys, and_assoc, and_assoc, and_assoc]
  refine and_congr_right fun _ => and_congr_right fun _ => and_congr_right fun _ => ?_
  constructor
  · exact fun all => ⟨fun other different => (elsewhere other different).mp (all other), here.mp (all key)⟩
  · intro split other
    by_cases same : other = key
    · exact same ▸ here.mpr split.2
    · exact (elsewhere other same).mpr (split.1 other same)

theorem child?_of_declared (declared : key ∈ schema.fieldNames) : ∃ node, schema.child? (.key key) = some node := by
  obtain ⟨accepted, fields, unknownKeys, requireAny, items, values, singleEntry⟩ := schema
  obtain ⟨⟨name, node⟩, listed, rfl⟩ := List.mem_map.mp declared
  cases found : Entries.get? fields name with
  | none => exact absurd (Entries.mem_keys_of_mem listed) (Entries.get?_eq_none_iff.mp found)
  | some field => exact ⟨field, by rw [child?, found, Option.some_or]⟩

section Nulls

variable {lower upper : Entries Value} (absent : Entries.get? lower key = none)
  (null : Entries.get? upper key = some .null)
  (elsewhere : ∀ other ≠ key, Entries.get? upper other = Entries.get? lower other)
include null elsewhere

theorem mem_keys_of_null (other : String) :
    other ∈ Entries.keys upper ↔ other = key ∨ other ∈ Entries.keys lower := by
  by_cases same : other = key
  · subst same
    simp [Entries.mem_keys_of_mem (Entries.mem_of_get? null)]
  · rw [← not_iff_not, ← Entries.get?_eq_none_iff, elsewhere other same, Entries.get?_eq_none_iff]
    simp [same]

theorem turnsAway_iff_of_null (declared : key ∈ schema.fieldNames) :
    schema.TurnsAway upper ↔ schema.TurnsAway lower := by
  obtain ⟨accepted, fields, unknownKeys, requireAny, items, values, singleEntry⟩ := schema
  have isField : key ∈ Entries.keys fields := declared
  simp [TurnsAway, mem_keys_of_null null elsewhere, isField]

theorem Misses.of_null (misses : schema.Misses upper) : schema.Misses lower := by
  obtain ⟨accepted, fields, unknownKeys, requireAny, items, values, singleEntry⟩ := schema
  obtain ⟨asks, none⟩ := misses
  exact ⟨asks, fun key listed held => none key listed ((mem_keys_of_null null elsewhere key).mpr (Or.inr held))⟩

include absent

theorem conformsInside_iff_of_null (declared : key ∈ schema.fieldNames) (other : String) :
    schema.ConformsInside upper other ↔ schema.ConformsInside lower other := by
  by_cases same : other = key
  · subst same
    constructor
    · intro _ child node held
      rw [absent] at held
      cases held
    · intro _ child node held _ counts
      rw [null] at held
      cases held
      exact (counts rfl declared).elim
  · exact conformsInside_congr (elsewhere other same)

/-- A null under a declared key changes nothing, unless it is the only one of the keys that are required. -/
theorem conforms_iff_of_null (regular : schema.Regular) (declared : key ∈ schema.fieldNames)
    (distinctLower : Entries.Distinct lower) (distinctUpper : Entries.Distinct upper) :
    Conforms schema (.map lower) ↔ Conforms schema (.map upper) ∧ ¬schema.Misses lower := by
  obtain ⟨node, inside⟩ := child?_of_declared declared
  have singles := regular.freeOfSingles inside
  have admits : schema.accepted.Admits (.map upper) ↔ schema.accepted.Admits (.map lower) :=
    ⟨fun admits => admits.map _, fun admits => admits.map _⟩
  have misses : schema.Misses upper → schema.Misses lower := Misses.of_null null elsewhere
  rw [conforms_map_iff_inside singles regular distinctLower, conforms_map_iff_inside singles regular distinctUpper,
    admits, turnsAway_iff_of_null null elsewhere declared,
    forall_congr' (conformsInside_iff_of_null absent null elsewhere declared)]
  tauto

end Nulls

end Maps

theorem forall_mem_set_iff {α : Type} {holds : α → Prop} {items : List α} {position : Nat}
    (within : position < items.length) (new : α) :
    (∀ member ∈ items.set position new, holds member) ↔
      (∀ other ≠ position, ∀ member, items[other]? = some member → holds member) ∧ holds new := by
  constructor
  · refine fun all => ⟨fun other different member held => all member (List.mem_iff_getElem?.mpr ⟨other, ?_⟩), ?_⟩
    · rw [List.getElem?_set_ne different.symm, held]
    · exact all new (List.mem_iff_getElem?.mpr ⟨position, List.getElem?_set_self within⟩)
  · rintro ⟨beside, here⟩ member listed
    obtain ⟨other, held⟩ := List.mem_iff_getElem?.mp listed
    by_cases same : other = position
    · rw [same, List.getElem?_set_self within] at held
      exact Option.some.inj held ▸ here
    · rw [List.getElem?_set_ne (Ne.symm same)] at held
      exact beside other same member held

/-- With another value at a step, a value conforms if everything else does and the new value as well. -/
theorem conforms_setChild_iff {schema node : Schema} {value child : Value} {step : Segment} (regular : schema.Regular)
    (inside : schema.child? step = some node) (distinct : value.DistinctKeys) (held : value.child? step = some child) :
    ∃ rest : Prop, ∀ new, new ≠ .null → (Conforms schema (value.setChild step new) ↔ rest ∧ Conforms node new) := by
  cases value <;> cases step <;> try cases held
  case map.key entries name =>
    exact conforms_insert_iff regular inside distinct.entries (Entries.mem_keys_of_mem (Entries.mem_of_get? held))
  case array.index items position =>
    obtain ⟨accepted, fields, unknownKeys, requireAny, itemNode, values, singleEntry⟩ := schema
    cases show itemNode = some node from inside
    have scalar : accepted.ScalarExceptions := regular.plain.accepted.scalarExceptions
    have within : position < items.length := (List.getElem?_eq_some_iff.mp held).1
    refine ⟨accepted.Admits (.array items) ∧
      ∀ other ≠ position, ∀ member, items[other]? = some member → Conforms node member, fun new _ => ?_⟩
    have admits : accepted.Admits (.array (items.set position new)) ↔ accepted.Admits (.array items) :=
      ⟨fun admits => admits.array _, fun admits => admits.array _⟩
    rw [Value.setChild, conforms_array_iff (scalar.array _), admits, and_assoc, ← forall_mem_set_iff within]
    simp only [Option.some.injEq, forall_eq']

/-- With another map at the end of a walk, a tree conforms if everything else does and the new map as well. -/
theorem conforms_setAt_iff {schema node : Schema} {value : Value} {steps : List Segment} {entries : Entries Value}
    (regular : schema.Regular) (checked : schema.walk? steps = some node) (distinct : value.DistinctKeys)
    (reached : value.walk? steps = some (.map entries)) :
    ∃ rest : Prop, ∀ others,
      Conforms schema (value.setAt steps (.map others)) ↔ rest ∧ Conforms node (.map others) := by
  -- everything else is what lies beside each of the steps
  induction steps generalizing schema value with
  | nil =>
    cases checked
    exact ⟨True, fun others => by rw [Value.setAt_nil, true_and]⟩
  | cons step rest ih =>
    rw [walk?_cons] at checked
    rw [Value.walk?_cons] at reached
    obtain ⟨inner, inside, checkedInside⟩ := Option.bind_eq_some_iff.mp checked
    obtain ⟨child, held, reachedInside⟩ := Option.bind_eq_some_iff.mp reached
    obtain ⟨below, sameBelow⟩ := ih (regular.child? inside) checkedInside (distinct.child? held) reachedInside
    obtain ⟨beside, sameBeside⟩ := conforms_setChild_iff regular inside distinct held
    refine ⟨beside ∧ below, fun others => ?_⟩
    rw [Value.setAt_cons held, sameBeside _ (Value.setAt_ne_null reachedInside (by simp)), sameBelow, and_assoc]

/-- A null under a declared key of a map inside of a user configuration changes nothing, unless it is the only one
of the keys that are required there. -/
theorem conforms_setAt_iff_of_null {plugins : Preprocessors} {config : Value} {steps : List Segment} {node : Schema}
    {name : String} {entries lower upper : Entries Value} (distinct : config.DistinctKeys)
    (checked : (userConfig plugins).walk? steps = some node) (reached : config.walk? steps = some (.map entries))
    (declared : name ∈ node.fieldNames) (distinctUpper : Entries.Distinct upper)
    (null : upper.Perm ((name, .null) :: lower)) :
    Conforms (userConfig plugins) (config.setAt steps (.map lower)) ↔
      Conforms (userConfig plugins) (config.setAt steps (.map upper)) ∧ ¬node.Misses lower := by
  have regular := regular_userConfig plugins
  have distinctBoth : Entries.Distinct ((name, .null) :: lower) := distinctUpper.perm null
  obtain ⟨fresh, distinctLower⟩ := List.nodup_cons.mp distinctBoth
  have isNull : Entries.get? upper name = some .null := by
    rw [distinctUpper.get?_eq_of_perm null, Entries.get?, if_pos rfl]
  have elsewhere : ∀ other ≠ name, Entries.get? upper other = Entries.get? lower other := by
    intro other different
    rw [distinctUpper.get?_eq_of_perm null, Entries.get?, if_neg different.symm]
  obtain ⟨rest, decides⟩ := conforms_setAt_iff regular checked distinct reached
  rw [decides, decides, conforms_iff_of_null (Entries.get?_eq_none_iff.mpr fresh) isNull elsewhere
    (regular.walk? checked) declared distinctLower distinctUpper, and_assoc]

end Schema

theorem validate_adds_no_error_iff {plugins : Preprocessors} {config : Value} {report : Report} :
    (report.validate (Schema.userConfig plugins) config).errors = report.errors ↔
      Schema.Conforms (Schema.userConfig plugins) config := by
  rw [Report.validate, Report.check, Report.addAll_errors_eq_iff]
  exact Schema.problems_findings_iff (Schema.unmixed_userConfig plugins) .root config

/-- Validation takes a null under a declared key for an absent entry, wherever the map is. It differs only where one
of some keys is required and the map holds none of them but the null: there the null is as good as a value. -/
theorem nulls_count_only_where_required {plugins : Preprocessors} {config : Value} {steps : List Segment}
    {node : Schema} {name : String} (distinct : config.DistinctKeys)
    (checked : (Schema.userConfig plugins).walk? steps = some node) (declared : name ∈ node.fieldNames)
    (report : Report) :
    (∀ front back, config.walk? steps = some (.map (front ++ back)) → name ∉ Entries.keys (front ++ back) →
      ((report.validate (Schema.userConfig plugins) config).errors = report.errors ↔
        (report.validate (Schema.userConfig plugins)
            (config.setAt steps (.map (front ++ (name, .null) :: back)))).errors = report.errors ∧
          ¬node.Misses (front ++ back))) ∧
      ∀ entries, config.walk? steps = some (.map entries) → Entries.get? entries name = some .null →
        ((report.validate (Schema.userConfig plugins)
            (config.setAt steps (.map (Entries.erase entries name)))).errors = report.errors ↔
          (report.validate (Schema.userConfig plugins) config).errors = report.errors ∧
            ¬node.Misses (Entries.erase entries name)) := by
  simp only [validate_adds_no_error_iff]
  refine ⟨fun front back reached absent => ?added, fun entries reached null => ?removed⟩
  case added =>
    have perm : (front ++ (name, .null) :: back).Perm ((name, .null) :: (front ++ back)) := List.perm_middle
    have fresh : Entries.Distinct ((name, Value.null) :: (front ++ back)) :=
      List.nodup_cons.mpr ⟨absent, (distinct.walk? reached).entries⟩
    have same := Schema.conforms_setAt_iff_of_null distinct checked reached declared (fresh.perm perm.symm) perm
    rwa [Value.setAt_walk? reached] at same
  case removed =>
    have distinctEntries : Entries.Distinct entries := (distinct.walk? reached).entries
    have same := Schema.conforms_setAt_iff_of_null distinct checked reached declared distinctEntries
      (Entries.perm_erase null)
    rwa [Value.setAt_walk? reached] at same

theorem nulls_count_only_where_required_copy :
    let copying (options : Entries Value) : Value := .map [("webpack", .map [("copy", .map options)])]
    let steps : List Segment := [.key "webpack", .key "copy"]
    let patterns : Entries Value := [("patterns", .array [.string "static"])]
    let withNull : Entries Value := patterns ++ [("options", .null)]
    let schema := Schema.userConfig .empty
    let report := (Report.ofSource none).addError .root .null "earlier"
    (copying patterns).DistinctKeys ∧ (copying withNull).DistinctKeys ∧
      schema.walk? steps = some Schema.copy ∧ "options" ∈ Schema.copy.fieldNames ∧ ¬Schema.copy.Misses patterns ∧
      (report.validate schema ((copying patterns).setAt steps (.map withNull))).errors = report.errors ∧
      (report.validate schema ((copying withNull).setAt steps (.map patterns))).errors = report.errors := by
  intro copying steps patterns withNull schema report
  have distinct : (copying patterns).DistinctKeys := by decide
  have distinctWithNull : (copying withNull).DistinctKeys := by decide
  have checked : schema.walk? steps = some Schema.copy := by rfl
  have declared : "options" ∈ Schema.copy.fieldNames := by decide
  have has : ¬Schema.copy.Misses patterns := by decide
  have clean : (report.validate schema (copying patterns)).errors = report.errors := by rfl
  have cleanWithNull : (report.validate schema (copying withNull)).errors = report.errors := by rfl
  obtain ⟨added, _⟩ := nulls_count_only_where_required distinct checked declared report
  obtain ⟨_, removed⟩ := nulls_count_only_where_required distinctWithNull checked declared report
  exact ⟨distinct, distinctWithNull, checked, declared, has, ((added patterns [] rfl (by decide)).mp clean).1,
    (removed withNull rfl rfl).mpr ⟨cleanWithNull, has⟩⟩

/-- Of two keys one is required, and a null under one of them is enough. -/
theorem null_stands_in_for_required_key :
    let copying (options : Entries Value) : Value := .map [("webpack", .map [("copy", .map options)])]
    let schema := Schema.userConfig .empty
    let report := Report.ofSource none
    schema.walk? [.key "webpack", .key "copy"] = some Schema.copy ∧ "patterns" ∈ Schema.copy.fieldNames ∧
      (report.validate schema (copying [])).errors ≠ report.errors ∧
      (report.validate schema (copying [("patterns", .null)])).errors = report.errors := by
  intro copying schema report
  refine ⟨rfl, by decide, fun clean => ?_, rfl⟩
  exact absurd (congrArg List.length clean) (by decide)

end BuildConfig
