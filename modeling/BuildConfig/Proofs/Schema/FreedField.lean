import BuildConfig.Proofs.Schema.DeclaredPaths
import BuildConfig.Proofs.Schema.Diagnostics

namespace BuildConfig.Schema

theorem conforms_any (value : Value) : Conforms any value := by
  have admitted (held : Value) : Alternatives.any.Admits held := Or.inl ⟨rfl, rfl⟩
  cases value with
  | map entries => exact .map (admitted _) (Or.inl rfl) (Or.inl rfl) (by simp) (by simp)
  | array items => exact .array (admitted _) (by simp)
  | _ => exact .scalar (admitted _) rfl rfl

section FreedField

variable {accepted : Alternatives} {fields : List (String × Schema)} {unknownKeys : UnknownKeys}
  {requireAny : List String} {items : Option Schema} {name : String} {field : Schema} {entries : Entries Value}

theorem unknownKeyFindings_eq_nil {declared : List String}
    (known : unknownKeys = .allow ∨ ∀ key ∈ Entries.keys entries, key ∈ declared) (path : Path) :
    unknownKeyFindings unknownKeys declared path entries = [] := by
  rcases unknownKeyFindings_cases unknownKeys declared path entries with nothing | ⟨⟨closed, key, held, undeclared⟩, _⟩
  · exact nothing
  · exact (undeclared (known.resolve_left closed key held)).elim

theorem requiredKeyFindings_eq_nil (required : requireAny = [] ∨ ∃ key ∈ requireAny, key ∈ Entries.keys entries)
    (path : Path) : requiredKeyFindings requireAny path entries = [] := by
  rcases requiredKeyFindings_cases requireAny path entries with nothing | ⟨⟨asks, missing⟩, _⟩
  · exact nothing
  · obtain ⟨key, listed, held⟩ := required.resolve_left asks
    exact (missing key listed held).elim

theorem fieldFindings_eq_nil {path : Path} (nothing : ∀ other node, (other, node) ∈ fields → ∀ value,
      Value.notNull? (Entries.get? entries other) = some value → node.findings (path.key other) value = []) :
    fieldFindings fields path entries = [] := by
  rw [fieldFindings_eq, List.flatMap_eq_nil_iff]
  intro part isPart
  obtain ⟨other, declared, set, atOther⟩ := mem_fieldParts_iff.mp isPart
  rw [atOther, ← Path.key_eq_extend]
  exact nothing other part.node declared part.value set

/-- Where nothing is found under the other fields, what is found under one of them is all. -/
theorem fieldFindings_of_declared {path : Path} (distinct : Entries.Distinct fields)
    (declared : Entries.get? fields name = some field)
    (nothing : ∀ other node, (other, node) ∈ fields → other ≠ name → ∀ value,
      Value.notNull? (Entries.get? entries other) = some value → node.findings (path.key other) value = []) :
    fieldFindings fields path entries =
      (Value.notNull? (Entries.get? entries name)).elim [] fun value => field.findings (path.key name) value := by
  induction fields with
  | nil => cases declared
  | cons declaration rest ih =>
    obtain ⟨first, node⟩ := declaration
    have later : ∀ other inner, (other, inner) ∈ rest → other ≠ name → ∀ value,
        Value.notNull? (Entries.get? entries other) = some value → inner.findings (path.key other) value = [] :=
      fun other inner among => nothing other inner (List.mem_cons_of_mem _ among)
    rw [fieldFindings_cons]
    by_cases here : first = name
    · subst first
      rw [Entries.get?, if_pos rfl, Option.some.injEq] at declared
      -- names do not repeat, so that the field in question is none of the later ones
      have fresh := (List.nodup_cons.mp distinct).1
      rw [declared, fieldFindings_eq_nil fun other inner among =>
        later other inner among (by rintro rfl; exact fresh (Entries.mem_keys_of_mem among)), List.append_nil]
    · rw [Entries.get?, if_neg here] at declared
      rw [ih distinct.tail declared later]
      cases set : Value.notNull? (Entries.get? entries first) with
      | none => rfl
      | some value =>
        rw [Option.elim_some, nothing first node (List.mem_cons_self ..) here value set, List.nil_append]

/-- If only what a map holds under one field may fall short, a check of the map finds what a check of this field
does. -/
theorem findings_of_conforms_freed
    (unmixed : (node accepted fields unknownKeys requireAny items none none).Everywhere Alternatives.Unmixed)
    (scalar : accepted.ScalarExceptions) (distinct : Entries.Distinct fields)
    (declared : Entries.get? fields name = some field)
    (conforms : Conforms ((node accepted fields unknownKeys requireAny items none none).withField name any)
      (.map entries)) (path : Path) :
    (node accepted fields unknownKeys requireAny items none none).findings path (.map entries) =
      (Value.notNull? (Entries.get? entries name)).elim [] fun value => field.findings (path.key name) value := by
  rw [withField, conforms_map_iff (scalar.map _)] at conforms
  obtain ⟨admitted, known, required, fieldsConform, _⟩ := conforms
  have isField : name ∈ Entries.keys fields := Entries.mem_keys_of_mem (Entries.mem_of_get? declared)
  rw [Entries.keys_insert, if_pos isField] at known
  have others : ∀ other node, (other, node) ∈ fields → other ≠ name → ∀ value,
      Value.notNull? (Entries.get? entries other) = some value → node.findings (path.key other) value = [] := by
    intro other node isOther different value set
    obtain ⟨held, notNull⟩ := Value.notNull?_eq_some_iff.mp set
    have stillDeclared : Entries.get? (Entries.insert fields name any) other = some node := by
      rw [Entries.get?_insert_of_ne _ _ different.symm, distinct.get?_of_mem isOther]
    have conformsThere := fieldsConform other node (Entries.mem_of_get? stillDeclared) value held notNull
    obtain ⟨_, inFields⟩ := unmixed
    exact findings_eq_nil_iff.mpr ((problems_findings_iff (inFields other node isOther) _ value).mpr conformsThere)
  have verdict : accepted.verdict (.map entries) = .lookInside :=
    Alternatives.verdict_map unmixed.accepted scalar admitted
  rw [findings_map _ _ _ _ _ _ verdict, fieldFindings_of_declared distinct declared others,
    unknownKeyFindings_eq_nil known, requiredKeyFindings_eq_nil required]
  simp only [undeclaredFindings, List.nil_append, List.append_nil]

end FreedField

/-- Every field of a closed record is a step of a path, one that is declared anew included. -/
theorem declares_withField {fields : List (String × Schema)} {name other : String} {field child target : Schema}
    {rest : List String}
    (declared : Entries.get? (Entries.insert (Entries.assign [] fields) name field) other = some child)
    (below : child.Declares rest target) :
    ((record.withFields fields).withField name field).Declares (other :: rest) target := by
  have assigned :
      Entries.assign [] (fields ++ [(name, field)]) = Entries.insert (Entries.assign [] fields) name field :=
    List.foldl_append
  have anew : (record.withFields fields).withField name field = record.withFields (fields ++ [(name, field)]) := by
    rw [record_node, record_node, assigned]
    rfl
  rw [anew]
  exact declares_record (assigned ▸ declared) below

/-- A value that is none of the choices is rejected as it stands. -/
theorem findings_ofChoices {choices : List String} {value : Value} (some : choices ≠ [])
    (other : ∀ text ∈ choices, value ≠ .string text) (path : Path) :
    ∃ message meant, (ofChoices choices).findings path value = rejection path value message meant := by
  have shape : ofChoices choices = .node ⟨[], choices, [], none⟩ [] .allow [] none none none := rfl
  have unmixed : Alternatives.Unmixed ⟨[], choices, [], none⟩ := fun _ => Or.inr rfl
  have meaning := Alternatives.verdict_meaning unmixed value
  rw [shape]
  cases verdict : Alternatives.verdict ⟨[], choices, [], none⟩ value with
  | passes =>
    rw [verdict] at meaning
    rcases meaning with ⟨_, listed, _⟩ | ⟨_, _, text, listed, same⟩
    · cases listed
    · exact (other text listed same).elim
  | rejected message meant => exact ⟨message, meant, findings_of_rejected _ _ _ _ _ _ _ verdict⟩
  | lookInside =>
    rw [verdict] at meaning
    rcases meaning.2.2 with ⟨_, noChoices⟩ | ⟨_, listed, _⟩
    · exact (some noChoices).elim
    · cases listed

end BuildConfig.Schema
