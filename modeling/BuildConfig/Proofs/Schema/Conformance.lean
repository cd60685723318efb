import BuildConfig.Proofs.Findings
import BuildConfig.Proofs.Schema.Verdicts
import BuildConfig.Proofs.Value.Trees

namespace BuildConfig.Schema

/-- A property of alternatives that holds at every node of a schema, however deep. -/
inductive Everywhere (holds : Alternatives → Prop) : Schema → Prop
  | node {accepted : Alternatives} {fields : List (String × Schema)} {unknownKeys : UnknownKeys}
      {requireAny : List String} {items values singleEntry : Option Schema}
      (here : holds accepted)
      (inFields : ∀ name field, (name, field) ∈ fields → Everywhere holds field)
      (inItems : ∀ item, items = some item → Everywhere holds item)
      (inValues : ∀ other, values = some other → Everywhere holds other)
      (inSingleEntry : ∀ entry, singleEntry = some entry → Everywhere holds entry) :
      Everywhere holds (.node accepted fields unknownKeys requireAny items values singleEntry)

/-- The values that a schema describes. An exception passes as it is, and so does a choice where
strings do not pass as such. Every other value is of a kind that is asked for, and what is inside of
it conforms as well: the items of an array, the declared fields of a map that are neither absent nor
null, and the values under its other keys. -/
inductive Conforms : Schema → Value → Prop
  | excepted {accepted fields unknownKeys requireAny items values singleEntry} {value : Value}
      (exception : accepted.Excepts value) :
      Conforms (.node accepted fields unknownKeys requireAny items values singleEntry) value
  | chosen {accepted fields unknownKeys requireAny items values singleEntry} {value : Value}
      (choice : accepted.Offers value) :
      Conforms (.node accepted fields unknownKeys requireAny items values singleEntry) value
  | scalar {accepted fields unknownKeys requireAny items values singleEntry} {value : Value}
      (admitted : accepted.Admits value) (notMap : value.isMap = false) (notArray : value.isArray = false) :
      Conforms (.node accepted fields unknownKeys requireAny items values singleEntry) value
  | array {accepted fields unknownKeys requireAny items values singleEntry} {members : List Value}
      (admitted : accepted.Admits (.array members))
      (inside : ∀ item, items = some item → ∀ member ∈ members, Conforms item member) :
      Conforms (.node accepted fields unknownKeys requireAny items values singleEntry) (.array members)
  | singleEntry {accepted fields unknownKeys requireAny items values} {entry : Schema} {key : String}
      {only : Value} (admitted : accepted.Admits (.map [(key, only)])) (kind : entry.acceptsKind only = true) :
      Conforms (.node accepted fields unknownKeys requireAny items values (some entry)) (.map [(key, only)])
  | map {accepted fields unknownKeys requireAny items values} {entries : Entries Value}
      (admitted : accepted.Admits (.map entries))
      (known : unknownKeys = .allow ∨ ∀ key ∈ Entries.keys entries, key ∈ Entries.keys fields)
      (required : requireAny = [] ∨ ∃ key ∈ requireAny, key ∈ Entries.keys entries)
      (declared : ∀ name field, (name, field) ∈ fields → ∀ child, Entries.get? entries name = some child →
        child ≠ .null → Conforms field child)
      (undeclared : ∀ other, values = some other → ∀ key child, (key, child) ∈ entries →
        key ∉ Entries.keys fields → Conforms other child) :
      Conforms (.node accepted fields unknownKeys requireAny items values none) (.map entries)

/-- One of the three ways to pass is open to every conforming value. -/
theorem Conforms.passes {accepted : Alternatives} {fields : List (String × Schema)}
    {unknownKeys : UnknownKeys} {requireAny : List String} {items values singleEntry : Option Schema}
    {value : Value}
    (conforms : Conforms (.node accepted fields unknownKeys requireAny items values singleEntry) value) :
    accepted.Excepts value ∨ accepted.Offers value ∨ accepted.Admits value := by
  cases conforms with
  | excepted exception => exact Or.inl exception
  | chosen choice => exact Or.inr (Or.inl choice)
  | scalar admitted => exact Or.inr (Or.inr admitted)
  | array admitted => exact Or.inr (Or.inr admitted)
  | singleEntry admitted => exact Or.inr (Or.inr admitted)
  | map admitted => exact Or.inr (Or.inr admitted)

section Inversion

variable {accepted : Alternatives} {fields : List (String × Schema)} {unknownKeys : UnknownKeys}
  {requireAny : List String} {items values singleEntry : Option Schema}

theorem conforms_array_iff {members : List Value} (plain : ¬accepted.Excepts (.array members)) :
    Conforms (.node accepted fields unknownKeys requireAny items values singleEntry) (.array members) ↔
      accepted.Admits (.array members) ∧
        ∀ item, items = some item → ∀ member ∈ members, Conforms item member := by
  constructor
  · intro conforms
    cases conforms with
    | excepted exception => exact (plain exception).elim
    | chosen choice => exact (accepted.not_offers_of_not_string (by simp) choice).elim
    | scalar _ _ notArray => simp [Value.isArray] at notArray
    | array admitted inside => exact ⟨admitted, inside⟩
  · rintro ⟨admitted, inside⟩
    exact .array admitted inside

theorem conforms_singleEntry_iff {entry : Schema} {entries : Entries Value}
    (plain : ¬accepted.Excepts (.map entries)) :
    Conforms (.node accepted fields unknownKeys requireAny items values (some entry)) (.map entries) ↔
      accepted.Admits (.map entries) ∧ ∃ key only, entries = [(key, only)] ∧ entry.acceptsKind only = true := by
  constructor
  · intro conforms
    cases conforms with
    | excepted exception => exact (plain exception).elim
    | chosen choice => exact (accepted.not_offers_of_not_string (by simp) choice).elim
    | scalar _ notMap => simp [Value.isMap] at notMap
    | singleEntry admitted kind => exact ⟨admitted, _, _, rfl, kind⟩
  · rintro ⟨admitted, key, only, rfl, kind⟩
    exact .singleEntry admitted kind

theorem conforms_map_iff {entries : Entries Value} (plain : ¬accepted.Excepts (.map entries)) :
    Conforms (.node accepted fields unknownKeys requireAny items values none) (.map entries) ↔
      accepted.Admits (.map entries) ∧
        (unknownKeys = .allow ∨ ∀ key ∈ Entries.keys entries, key ∈ Entries.keys fields) ∧
        (requireAny = [] ∨ ∃ key ∈ requireAny, key ∈ Entries.keys entries) ∧
        (∀ name field, (name, field) ∈ fields → ∀ child, Entries.get? entries name = some child →
          child ≠ .null → Conforms field child) ∧
        ∀ other, values = some other → ∀ key child, (key, child) ∈ entries →
          key ∉ Entries.keys fields → Conforms other child := by
  constructor
  · intro conforms
    cases conforms with
    | excepted exception => exact (plain exception).elim
    | chosen choice => exact (accepted.not_offers_of_not_string (by simp) choice).elim
    | scalar _ notMap => simp [Value.isMap] at notMap
    | map admitted known required declared undeclared =>
      exact ⟨admitted, known, required, declared, undeclared⟩
  · rintro ⟨admitted, known, required, declared, undeclared⟩
    exact .map admitted known required declared undeclared

end Inversion

/-- What is wrong under the undeclared keys of a map. -/
def undeclaredFindings (fields : List (String × Schema)) (path : Path) (entries : Entries Value) :
    Option Schema → List Finding
  | none => []
  | some other => entries.flatMap fun (key, child) =>
      if Entries.contains fields key then [] else other.findings (path.key key) child

/-- What is wrong with the items of an array. -/
def itemFindings (path : Path) (members : List Value) : Option Schema → List Finding
  | none => []
  | some item => members.zipIdx.flatMap fun (member, position) => item.findings (path.index position) member

/-- What is wrong with a map that has to hold a single entry. -/
def singleEntryProblems (entry : Schema) (message : String) (path : Path) : Entries Value → List Problem
  | [(key, only)] => if entry.acceptsKind only then [] else [⟨path, .map [(key, only)], message⟩]
  | entries => [⟨path, .map entries, message⟩]

section Equations

variable {accepted : Alternatives} (fields : List (String × Schema)) (unknownKeys : UnknownKeys)
  (requireAny : List String) (items values singleEntry : Option Schema) (path : Path) {value : Value}

theorem findings_of_passes (verdict : accepted.verdict value = .passes) :
    findings (.node accepted fields unknownKeys requireAny items values singleEntry) path value = [] := by
  unfold findings
  rw [verdict]

theorem findings_of_rejected {message : String} {meant : Option String}
    (verdict : accepted.verdict value = .rejected message meant) :
    findings (.node accepted fields unknownKeys requireAny items values singleEntry) path value =
      rejection path value message meant := by
  unfold findings
  rw [verdict]

theorem findings_map {entries : Entries Value} (verdict : accepted.verdict (.map entries) = .lookInside) :
    findings (.node accepted fields unknownKeys requireAny items values none) path (.map entries) =
      unknownKeyFindings unknownKeys (Entries.keys fields) path entries
        ++ requiredKeyFindings requireAny path entries
        ++ fieldFindings fields path entries
        ++ undeclaredFindings fields path entries values := by
  unfold findings
  rw [verdict]
  cases values <;> rfl

theorem findings_array {members : List Value} (verdict : accepted.verdict (.array members) = .lookInside) :
    findings (.node accepted fields unknownKeys requireAny items values singleEntry) path (.array members) =
      itemFindings path members items := by
  unfold findings
  rw [verdict]
  cases items <;> rfl

theorem findings_scalar (verdict : accepted.verdict value = .lookInside) (notMap : value.isMap = false)
    (notArray : value.isArray = false) :
    findings (.node accepted fields unknownKeys requireAny items values singleEntry) path value = [] := by
  unfold findings
  rw [verdict]
  cases value <;> first | rfl | simp [Value.isMap, Value.isArray] at notMap notArray

theorem findings_singleEntry {entry : Schema} {entries : Entries Value}
    (verdict : accepted.verdict (.map entries) = .lookInside) :
    findings (.node accepted fields unknownKeys requireAny items values (some entry)) path (.map entries) =
      (singleEntryProblems entry accepted.kindMessage path entries).map .problem := by
  unfold findings singleEntryProblems
  rw [verdict]
  match entries with
  | [] => rfl
  | [(_, only)] =>
    by_cases kind : entry.acceptsKind only = true <;> simp [kind, rejection]
  | _ :: _ :: _ => rfl

theorem problems_singleEntry {entry : Schema} {entries : Entries Value}
    (verdict : accepted.verdict (.map entries) = .lookInside) :
    problems (findings (.node accepted fields unknownKeys requireAny items values (some entry)) path
        (.map entries)) = singleEntryProblems entry accepted.kindMessage path entries := by
  rw [findings_singleEntry _ _ _ _ _ _ verdict, problems_map_problem]

end Equations

theorem problems_rejection (path : Path) (value : Value) (message : String) (meant : Option String) :
    problems (rejection path value message meant) = [⟨path, value, message⟩] := by
  cases meant <;> rfl

theorem problems_unknownKeyFindings {unknownKeys : UnknownKeys} {declared : List String} {path : Path}
    {entries : Entries Value} :
    problems (unknownKeyFindings unknownKeys declared path entries) = [] ↔
      unknownKeys = .allow ∨ ∀ key ∈ Entries.keys entries, key ∈ declared := by
  cases unknownKeys with
  | allow => simp [unknownKeyFindings]
  | reject message =>
    simp only [unknownKeyFindings, reduceCtorEq, false_or]
    split
    · rename_i none
      simpa [List.filter_eq_nil_iff] using none
    · rename_i some
      simpa [List.filter_eq_nil_iff] using some

theorem problems_requiredKeyFindings {requireAny : List String} {path : Path} {entries : Entries Value} :
    problems (requiredKeyFindings requireAny path entries) = [] ↔
      requireAny = [] ∨ ∃ key ∈ requireAny, key ∈ Entries.keys entries := by
  have present : requireAny.any (Entries.contains entries) = true ↔
      ∃ key ∈ requireAny, key ∈ Entries.keys entries := by
    simp only [List.any_eq_true, Entries.contains_iff_mem]
  unfold requiredKeyFindings
  split
  · rename_i satisfied
    simpa only [problems_nil, true_iff, Bool.or_eq_true, List.isEmpty_iff, present] using satisfied
  · rename_i missing
    rw [Bool.or_eq_true, List.isEmpty_iff, present] at missing
    simpa using missing

theorem fieldFindings_cons (name : String) (field : Schema) (rest : List (String × Schema)) (path : Path)
    (entries : Entries Value) :
    fieldFindings ((name, field) :: rest) path entries =
      ((Value.notNull? (Entries.get? entries name)).elim [] fun child => field.findings (path.key name) child)
        ++ fieldFindings rest path entries := by
  rw [fieldFindings]
  congr 1
  cases Entries.get? entries name with
  | none => rfl
  | some child => cases child <;> rfl

/-- The declared fields are without problems exactly when each one that is set is. -/
theorem problems_fieldFindings {fields : List (String × Schema)} {path : Path} {entries : Entries Value} :
    problems (fieldFindings fields path entries) = [] ↔
      ∀ name field, (name, field) ∈ fields → ∀ child, Entries.get? entries name = some child →
        child ≠ .null → problems (field.findings (path.key name) child) = [] := by
  induction fields with
  | nil => simp [fieldFindings]
  | cons declaration rest ih =>
    obtain ⟨first, schema⟩ := declaration
    have here : problems ((Value.notNull? (Entries.get? entries first)).elim [] fun child =>
        schema.findings (path.key first) child) = [] ↔
        ∀ child, Entries.get? entries first = some child → child ≠ .null →
          problems (schema.findings (path.key first) child) = [] := by
      simp only [← and_imp, ← Value.notNull?_eq_some_iff]
      cases Value.notNull? (Entries.get? entries first) <;> simp
    rw [fieldFindings_cons, problems_append, List.append_eq_nil_iff, ih, here]
    simp only [List.mem_cons, Prod.mk.injEq]
    constructor
    · rintro ⟨clean, others⟩ name field (⟨rfl, rfl⟩ | later)
      · exact clean
      · exact others name field later
    · intro all
      exact ⟨all first schema (Or.inl ⟨rfl, rfl⟩), fun name field later => all name field (Or.inr later)⟩

theorem problems_undeclaredFindings {fields : List (String × Schema)} {values : Option Schema} {path : Path}
    {entries : Entries Value} :
    problems (undeclaredFindings fields path entries values) = [] ↔
      ∀ other, values = some other → ∀ key child, (key, child) ∈ entries → key ∉ Entries.keys fields →
        problems (other.findings (path.key key) child) = [] := by
  cases values with
  | none => simp [undeclaredFindings]
  | some other =>
    simp only [undeclaredFindings, problems_flatMap, List.flatMap_eq_nil_iff, Prod.forall, Option.some.injEq,
      forall_eq']
    refine forall_congr' fun key => forall_congr' fun child => imp_congr_right fun _ => ?_
    by_cases declared : key ∈ Entries.keys fields
    · simp [Entries.contains_iff_mem.mpr declared, declared]
    · simp [mt Entries.contains_iff_mem.mp declared, declared]

theorem problems_itemFindings {items : Option Schema} {path : Path} {members : List Value} :
    problems (itemFindings path members items) = [] ↔
      ∀ item, items = some item → ∀ position member, members[position]? = some member →
        problems (item.findings (path.index position) member) = [] := by
  cases items with
  | none => simp [itemFindings]
  | some item =>
    simp only [itemFindings, problems_flatMap, List.flatMap_eq_nil_iff, Prod.forall,
      List.mk_mem_zipIdx_iff_getElem?, Option.some.injEq, forall_eq']
    exact forall_comm

/-- The check finds no problem in exactly the values that the schema describes, wherever it starts. -/
theorem problems_findings_iff {schema : Schema} (unmixed : schema.Everywhere Alternatives.Unmixed)
    (path : Path) (value : Value) : problems (schema.findings path value) = [] ↔ Conforms schema value := by
  induction unmixed generalizing path value with
  | @node accepted fields unknownKeys requireAny items values singleEntry here _ _ _ _ inFields inItems inValues _ =>
    have meaning := Alternatives.verdict_meaning here value
    cases verdict : accepted.verdict value with
    | passes =>
      rw [verdict] at meaning
      rw [findings_of_passes _ _ _ _ _ _ _ verdict]
      exact ⟨fun _ => meaning.elim .excepted .chosen, fun _ => rfl⟩
    | rejected message meant =>
      rw [verdict] at meaning
      obtain ⟨notExcepted, notOffered, notAdmitted⟩ := meaning
      rw [findings_of_rejected _ _ _ _ _ _ _ verdict, problems_rejection]
      refine ⟨fun clean => by simp at clean, fun conforms => ?_⟩
      rcases conforms.passes with exception | choice | admitted
      · exact (notExcepted exception).elim
      · exact (notOffered choice).elim
      · exact (notAdmitted admitted).elim
    | lookInside =>
      rw [verdict] at meaning
      obtain ⟨notExcepted, _, admitted⟩ := meaning
      by_cases isMap : value.isMap = true
      · obtain ⟨entries, rfl⟩ := Value.isMap_iff.mp isMap
        cases singleEntry with
        | some entry =>
          rw [conforms_singleEntry_iff notExcepted, problems_singleEntry _ _ _ _ _ _ verdict]
          match entries with
          | [] => simp [singleEntryProblems]
          | [(key, only)] =>
            refine ⟨fun clean => ⟨admitted, key, only, rfl, by simpa [singleEntryProblems] using clean⟩, ?_⟩
            rintro ⟨_, _, _, same, kind⟩
            cases same
            simp [singleEntryProblems, kind]
          | _ :: _ :: _ => simp [singleEntryProblems]
        | none =>
          rw [conforms_map_iff notExcepted, findings_map _ _ _ _ _ _ verdict]
          simp only [admitted, true_and, problems_append, List.append_eq_nil_iff, problems_unknownKeyFindings,
            problems_requiredKeyFindings, problems_fieldFindings, problems_undeclaredFindings, and_assoc]
          refine and_congr_right fun _ => and_congr_right fun _ => and_congr ?_ ?_
          · refine forall_congr' fun name => forall_congr' fun field => forall_congr' fun declared => ?_
            simp only [inFields name field declared]
          · refine forall_congr' fun other => forall_congr' fun isOther => ?_
            simp only [inValues other isOther]
      rw [Bool.not_eq_true] at isMap
      by_cases isArray : value.isArray = true
      · obtain ⟨members, rfl⟩ := Value.isArray_iff.mp isArray
        rw [conforms_array_iff notExcepted, findings_array _ _ _ _ _ _ _ verdict, problems_itemFindings]
        simp only [admitted, true_and]
        refine forall_congr' fun item => forall_congr' fun isItem => ?_
        simp only [inItems item isItem, List.mem_iff_getElem?]
        exact ⟨fun all member held => held.elim fun position => all position member,
          fun all position member held => all member ⟨position, held⟩⟩
      rw [Bool.not_eq_true] at isArray
      rw [findings_scalar _ _ _ _ _ _ _ verdict isMap isArray]
      exact ⟨fun _ => .scalar admitted isMap isArray, fun _ => rfl⟩

end BuildConfig.Schema
