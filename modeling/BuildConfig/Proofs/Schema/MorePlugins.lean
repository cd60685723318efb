import BuildConfig.Proofs.Hoist.Conformance
import BuildConfig.Proofs.Schema.NullEntries

namespace BuildConfig

namespace Schema

/-- Every value that a schema describes another one describes as well. -/
def Refines (schema wider : Schema) : Prop :=
  ∀ value, Conforms schema value → Conforms wider value

theorem Refines.refl (schema : Schema) : schema.Refines schema :=
  fun _ conforms => conforms

section ClosedMaps

variable {accepted : Alternatives} {fields others : List (String × Schema)}
  {message : List String → List String → String} {requireAny : List String} {items : Option Schema}

/-- A closed map can have more fields declared, and each field can be declared wider. -/
theorem refines_of_fields (scalar : accepted.ScalarExceptions)
    (kept : ∀ key ∈ Entries.keys fields, key ∈ Entries.keys others)
    (wider : ∀ name field other, (name, field) ∈ fields → (name, other) ∈ others → field.Refines other) :
    (node accepted fields (.reject message) requireAny items none none).Refines
      (node accepted others (.reject message) requireAny items none none) := by
  intro value conforms
  cases value with
  | map entries =>
    rw [conforms_map_iff (scalar.map _)] at conforms ⊢
    obtain ⟨admitted, known, required, fieldsConform, _⟩ := conforms
    have declared := known.resolve_left (by simp)
    refine ⟨admitted, Or.inr fun key held => kept key (declared key held), required, ?_, by simp⟩
    intro name other isOther child held notNull
    obtain ⟨field, isField⟩ := Entries.mem_keys_iff.mp (declared name (Entries.mem_keys_iff.mpr ⟨child, held⟩))
    have inField := Entries.mem_of_get? isField
    exact wider name field other inField isOther child (fieldsConform name field inField child held notNull)
  | array members =>
    rw [conforms_array_iff (scalar.array _)] at conforms ⊢
    exact conforms
  | _ =>
    cases conforms with
    | excepted exception => exact .excepted exception
    | chosen choice => exact .chosen choice
    | scalar admitted notMap notArray => exact .scalar admitted notMap notArray

/-- A field of a closed map can be declared wider. -/
theorem refines_withField {name : String} {field other : Schema} (scalar : accepted.ScalarExceptions)
    (distinct : Entries.Distinct fields) (declared : Entries.get? fields name = some field)
    (wider : field.Refines other) :
    (node accepted fields (.reject message) requireAny items none none).Refines
      ((node accepted fields (.reject message) requireAny items none none).withField name other) := by
  refine refines_of_fields scalar (fun key listed => Entries.mem_keys_insert.mpr (Or.inr listed)) ?_
  intro key before after isBefore isAfter
  have atKey := distinct.get?_of_mem isBefore
  rcases Entries.mem_insert_cases isAfter with here | kept
  · cases here
    rw [declared, Option.some.injEq] at atKey
    exact atKey ▸ wider
  · rw [distinct.get?_of_mem kept, Option.some.injEq] at atKey
    exact atKey ▸ .refl before

theorem record_refines_withField {fields : List (String × Schema)} {field other : Schema} (name : String)
    (declared : Entries.get? (Entries.assign [] fields) name = some field) (wider : field.Refines other) :
    (record.withFields fields).Refines ((record.withFields fields).withField name other) := by
  rw [record_node]
  exact refines_withField Alternatives.noExceptions_scalar (Entries.distinct_nil.assign fields) declared wider

end ClosedMaps

section MorePlugins

variable {plugins more : Preprocessors}

theorem loaderNamesFor_of_mem {styleType : String} (registered : styleType ∈ plugins.ids) :
    plugins.loaderNamesFor styleType = Preprocessors.baseLoaders ++ [styleType] := by
  rw [Preprocessors.loaderNamesFor, if_pos (Entries.contains_iff_mem.mpr registered)]

/-- A plugin with the identifier `css` adds to its style type a loader that every style type has. -/
theorem styleEntry_css (plugins : Preprocessors) :
    styleEntry (plugins.loaderNamesFor "css") = styleEntry Preprocessors.baseLoaders := by
  unfold Preprocessors.loaderNamesFor
  split <;> rfl

section Registered

variable (registered : ∀ id ∈ plugins.ids, id ∈ more.ids)
include registered

/-- A style type that there is already keeps its loaders. -/
theorem styleEntry_of_more {styleType : String} (isType : styleType ∈ plugins.styleTypes) :
    styleEntry (more.loaderNamesFor styleType) = styleEntry (plugins.loaderNamesFor styleType) := by
  rcases List.mem_cons.mp isType with rfl | isId
  · rw [styleEntry_css, styleEntry_css]
  · rw [loaderNamesFor_of_mem isId, loaderNamesFor_of_mem (registered styleType isId)]

theorem styles_refines : (styles plugins).Refines (styles more) := by
  rw [styles_node, styles_node]
  refine refines_of_fields falseException_scalar (fun styleType listed => ?_)
    fun styleType field other isField isOther => ?_
  · rw [mem_keys_styleFields] at listed ⊢
    exact List.mem_cons.mpr ((List.mem_cons.mp listed).imp_right (registered styleType))
  · have isType := mem_keys_styleFields.mp (Entries.mem_keys_of_mem isField)
    rw [eq_of_mem_styleFields isField, eq_of_mem_styleFields isOther, styleEntry_of_more registered isType]
    exact .refl _

theorem userConfig_refines : (userConfig plugins).Refines (userConfig more) := by
  -- declaring the styles anew makes one schema of the other, as they differ in nothing else
  have inWebpack : (webpack plugins).Refines (webpack more) :=
    record_refines_withField "styles" rfl (styles_refines registered)
  exact record_refines_withField "webpack" rfl inWebpack

end Registered

end MorePlugins

end Schema

/-- More plugins invalidate no configuration: in what validation accepts with some plugins installed it finds no error
with these and others installed, whatever the identifiers of the others are and in whatever order all of them come. -/
theorem more_plugins_invalidate_nothing {plugins more : Preprocessors} (registered : ∀ id ∈ plugins.ids, id ∈ more.ids)
    {config : Value} {report : Report}
    (accepted : (report.validate (Schema.userConfig plugins) config).errors = report.errors) (other : Report) :
    (other.validate (Schema.userConfig more) config).errors = other.errors :=
  validate_adds_no_error_iff.mpr
    (Schema.userConfig_refines registered config (validate_adds_no_error_iff.mp accepted))

/-- Among the other plugins are one named like the style type without a preprocessor, two named like keys of its rules
and one without a name. -/
theorem more_plugins_invalidate_nothing_named_alike :
    let plugins := Preprocessors.empty.register "sass" .empty
    let more : Preprocessors :=
      ⟨[("loaders", .empty), ("css", .empty), ("", .empty), ("sass", .empty), ("include", .empty)]⟩
    let rules : Entries Value :=
      [("css", .array [.map [("include", .pattern "src"), ("css", .map [("modules", .bool true)])]]),
        ("sass", .array [.map [("sass", .empty), ("loaders", .map [("postcss", .empty)])]])]
    let config : Value := .map [("webpack", .map [("styles", .map rules)])]
    let report := (Report.ofSource none).addError .root .null "earlier"
    (∀ id ∈ plugins.ids, id ∈ more.ids) ∧
      (report.validate (Schema.userConfig plugins) config).errors = report.errors ∧
      (report.validate (Schema.userConfig more) config).errors = report.errors := by
  intro plugins more rules config report
  have registered : ∀ id ∈ plugins.ids, id ∈ more.ids := by decide
  have accepted : (report.validate (Schema.userConfig plugins) config).errors = report.errors := by
    rw [Report.validate, Report.check, Report.addAll_errors_eq_iff]
    decide +kernel
  exact ⟨registered, accepted, more_plugins_invalidate_nothing registered accepted report⟩

end BuildConfig
