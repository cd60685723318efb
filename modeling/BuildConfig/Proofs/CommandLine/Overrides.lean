import BuildConfig.Proofs.Canonical.FixedPoints
import BuildConfig.Proofs.Canonical.Spellings
import BuildConfig.Proofs.Compile.Places
import BuildConfig.Proofs.Schema.FreedField
import BuildConfig.Proofs.TestRunner.Entries

namespace BuildConfig

section Assignments

variable {assignments : List (List String × Option Value)} {config : Value} {path : List String}

/-- An edit of what is there already can be made before values are put at places apart from it. -/
theorem Value.insertPath_insertEach (apart : ∀ place ∈ assignments.map Prod.fst, Apart path place)
    (held : (config.getPath? path).isSome = true) (new : Value) :
    (config.insertEach assignments).insertPath path new = (config.insertPath path new).insertEach assignments := by
  induction assignments generalizing config with
  | nil => rfl
  | cons assignment rest ih =>
    rw [List.map_cons, List.forall_mem_cons] at apart
    obtain ⟨place, set⟩ := assignment
    have stillHeld : ((config.insertSome place set).getPath? path).isSome = true := by
      rw [getPath?_insertSome_of_apart apart.1.symm, held]
    rw [insertEach_cons, insertEach_cons, ih apart.2 stillHeld]
    cases set with
    | none => rfl
    | some value => rw [insertSome, insertSome, insertPath_comm apart.1 held new value]

theorem Schema.conforms_insertEach {schema : Schema} (conforms : Schema.Conforms schema config)
    (keeps : ∀ place value, (place, some value) ∈ assignments → ∀ tree, Schema.Conforms schema tree →
      Schema.Conforms schema (tree.insertPath place value)) :
    Schema.Conforms schema (config.insertEach assignments) := by
  induction assignments generalizing config with
  | nil => exact conforms
  | cons assignment rest ih =>
    obtain ⟨place, set⟩ := assignment
    have later := fun place value among => keeps place value (List.mem_cons_of_mem _ among)
    cases set with
    | none => exact ih conforms later
    | some value => exact ih (keeps place value (List.mem_cons_self ..) config conforms) later

end Assignments

section Canonical

/-- The short form of a library name, written out. -/
def umdOptions : Value → Value
  | .string name => .map [("global", .string name)]
  | other => other

/-- What flags stand for, with the library name written out. -/
def canonicalOverrides (args : Arguments) : Value :=
  Value.empty.insertEach (flagAssignments args ((umdFlag? args).map umdOptions))

theorem umdFlag?_cases (args : Arguments) :
    umdFlag? args = none ∨ umdFlag? args = some (.bool false) ∨ ∃ name, umdFlag? args = some (.string name) := by
  unfold umdFlag?
  split <;> simp

theorem isCanonical_canonicalOverrides (args : Arguments) : IsCanonical (canonicalOverrides args) where
  moved := by
    have apart : ∀ rename ∈ renames, ∀ path ∈ overridePlaces, Apart path rename.source := by decide
    exact fun rename listed => getPath?_flags_of_apart (apart rename listed) args _
  writtenOut := by
    have apart : ∀ shorthand ∈ shorthands, shorthand.path = ["npm", "umd"] ∨
        ∀ path ∈ overridePlaces, Apart path shorthand.path := by decide
    intro shorthand listed value held
    rcases apart shorthand listed with isUmd | elsewhere
    · rw [isUmd, canonicalOverrides, getPath?_flags_of_mem (.tail _ (.head _))] at held
      rcases umdFlag?_cases args with absent | disabled | ⟨name, short⟩
      · rw [absent] at held
        cases held
      · rw [disabled] at held
        cases held
        exact accepts_eq_false listed rfl rfl
      · rw [short] at held
        cases held
        exact accepts_eq_false listed rfl rfl
    · rw [canonicalOverrides, getPath?_flags_of_apart elsewhere] at held
      cases held

/-- There is nothing to say about flags on their way to canonical form. -/
theorem canonicalize_canonicalOverrides (args : Arguments) :
    canonicalize (canonicalOverrides args) = (canonicalOverrides args, []) := by
  have canonical := isCanonical_canonicalOverrides args
  have apart : ∀ advice ∈ recommendations, ∀ path ∈ overridePlaces, Apart path advice.path := by decide
  have noAdvice : recommendations.flatMap (fun advice => advice.findings (canonicalOverrides args)) = [] := by
    refine List.flatMap_eq_nil_iff.mpr fun advice listed => ?_
    rw [Recommendation.findings, canonicalOverrides, getPath?_flags_of_apart (apart advice listed)]
    rfl
  refine Prod.ext canonical.unchanged ?_
  rw [canonical.only_hints, hints_canonicalize, canonical.unchanged, noAdvice]

/-- Another library name takes the place of the first one, whatever else the flags stand for. -/
theorem insertPath_umd (args : Arguments) (value new : Value) :
    (Value.empty.insertEach (flagAssignments args (some value))).insertPath ["npm", "umd"] new =
      Value.empty.insertEach (flagAssignments args (some new)) := by
  have apart : ∀ path ∈ overridePlaces.tail.tail, Apart ["npm", "umd"] path := by decide
  rw [flagAssignments, Value.insertEach_cons, Value.insertEach_cons, Value.insertPath_insertEach,
    Value.insertSome, Value.insertPath_insertPath_self]
  · rfl
  · exact apart
  · rw [Value.insertSome, Value.getPath?_insertPath_self]
    rfl

theorem canonicalize_commandLineOverrides (args : Arguments) :
    canonicalize (commandLineOverrides args) = (canonicalOverrides args, []) := by
  rcases umdFlag?_cases args with absent | disabled | ⟨name, short⟩
  · rw [← canonicalize_canonicalOverrides, canonicalOverrides, commandLineOverrides_eq, absent, Option.map_none]
  · rw [← canonicalize_canonicalOverrides, canonicalOverrides, commandLineOverrides_eq, disabled]
    rfl
  · have atUmd : (commandLineOverrides args).getPath? ["npm", "umd"] = some (.string name) :=
      (getPath?_flags_of_mem (.tail _ (.head _))).trans short
    rw [← (StandsFor.umd name).canonicalize_eq atUmd, ← canonicalize_canonicalOverrides, canonicalOverrides,
      commandLineOverrides_eq, short, insertPath_umd]
    rfl

end Canonical

namespace Schema

/-- The schema of user configurations, but for any type of project. -/
def userConfigOfAnyType (plugins : Preprocessors) : Schema :=
  (userConfig plugins).withField "type" any

variable {plugins : Preprocessors} {args : Arguments} {umd : Option Value} {place : List String} {value : Value}

/-- Whatever a flag puts at a declared place conforms there. The development server alone has no fields declared. -/
theorem conforms_of_mem_flagAssignments (umdConforms : ∀ options, umd = some options → Conforms Schema.umd options)
    (listed : (place, some value) ∈ flagAssignments args umd) :
    (∃ target, (userConfigOfAnyType plugins).Declares place target ∧ target.Conforms value) ∨
      ∃ key, place = ["devServer", key] := by
  simp only [flagAssignments, List.mem_cons, Prod.mk.injEq, List.not_mem_nil, or_false] at listed
  rcases listed with ⟨rfl, _⟩ | ⟨rfl, set⟩ | ⟨rfl, set⟩ | ⟨rfl, set⟩ | ⟨rfl, set⟩ | ⟨rfl, _⟩ | ⟨rfl, _⟩ | ⟨rfl, _⟩
  · exact Or.inl ⟨any, declares_withField rfl .here, conforms_any value⟩
  · have inNpm : Schema.npm.Declares ["umd"] Schema.umd := declares_record rfl .here
    exact Or.inl ⟨Schema.umd, declares_withField rfl inNpm, umdConforms value set.symm⟩
  · obtain ⟨enabled, _, rfl⟩ := Option.map_eq_some_iff.mp set.symm
    have inNpm : Schema.npm.Declares ["esModules"] (ofKind .boolean) := declares_record rfl .here
    exact Or.inl ⟨_, declares_withField rfl inNpm, (conforms_ofKinds_iff (by simp)).mpr ⟨.boolean, by simp, rfl⟩⟩
  · have inBabel : babel.Declares ["removePropTypes"] (ofKind .object).orFalse := declares_record rfl .here
    split at set
    · cases set
      exact Or.inl ⟨_, declares_withField rfl inBabel, .excepted ⟨.bool false, by simp [Alternatives.any], rfl⟩⟩
    · cases set
  · obtain ⟨text, _, rfl⟩ := Option.map_eq_some_iff.mp set.symm
    have inKarma : karma.Declares ["browsers"] testPluginList := declares_record rfl .here
    have bareNames : (Value.array ((listItems text).map .string)) =
        .array (((listItems text).map PluginEntry.bare).map PluginEntry.toValue) := by
      rw [List.map_map]
      rfl
    exact Or.inl ⟨_, declares_withField rfl inKarma, conforms_testPluginList_iff.mpr ⟨_, bareNames⟩⟩
  all_goals exact Or.inr ⟨_, rfl⟩

/-- What is put inside of an open map leaves it one. -/
theorem Declares.conforms_insertPath_open {schema : Schema} {config : Value} {name : String}
    (declares : schema.Declares [name] (ofKind .object)) (conforms : Conforms schema config) (key : String)
    (value : Value) : Conforms schema (config.insertPath [name, key] value) :=
  declares.conforms_insertPath (Or.inr conforms)
    (conforms_object_iff.mpr (show (((config.get? name).getD .empty).insertPath [key] value).isMap = true from rfl))

theorem conforms_umdOptions {options : Value} (flag : (umdFlag? args).map umdOptions = some options) :
    Conforms Schema.umd options := by
  rcases umdFlag?_cases args with absent | disabled | ⟨name, short⟩
  · rw [absent] at flag
    cases flag
  · rw [disabled] at flag
    cases flag
    exact .excepted ⟨.bool false, by simp [Alternatives.any], rfl⟩
  · rw [short] at flag
    cases flag
    have inNpm : Schema.npm.Declares ["umd"] Schema.umd := declares_record rfl .here
    have unmixed := composable_plain.npm.imp fun _ => Alternatives.Plain.unmixed
    have around : Conforms npm (.map [("umd", .map [("global", .string name)])]) :=
      (problems_findings_iff unmixed .root _).mp rfl
    exact inNpm.conforms_getPath? around rfl (by simp [umdOptions])

/-- Whatever the flags, only the type that they ask for can be wrong. -/
theorem conforms_canonicalOverrides (plugins : Preprocessors) (args : Arguments) :
    Conforms (userConfigOfAnyType plugins) (canonicalOverrides args) := by
  have anyType : (userConfigOfAnyType plugins).Declares ["type"] any := declares_withField rfl .here
  have server : (userConfigOfAnyType plugins).Declares ["devServer"] (ofKind .object) := declares_withField rfl .here
  refine conforms_insertEach (anyType.conforms_empty (by simp)) fun place value listed tree conforms => ?_
  rcases conforms_of_mem_flagAssignments (fun options => conforms_umdOptions) listed with
    ⟨target, declares, new⟩ | ⟨key, rfl⟩
  · exact declares.conforms_insertPath (Or.inr conforms) new
  · exact server.conforms_insertPath_open conforms key value

theorem findings_canonicalOverrides (plugins : Preprocessors) (args : Arguments) :
    (userConfig plugins).findings .root (canonicalOverrides args) =
      (Value.notNull? (args.flag? "type")).elim [] fun value =>
        (ofChoices (ProjectType.all.map ProjectType.name)).findings (Path.ofKeys ["type"]) value := by
  have unmixed := unmixed_userConfig plugins
  have conforms := conforms_canonicalOverrides plugins args
  have atType : (canonicalOverrides args).get? "type" = args.flag? "type" := by
    rw [← Value.getPath?_single]
    exact getPath?_flags_of_mem (.head _)
  rw [userConfigOfAnyType] at conforms
  rw [userConfig, record_node] at unmixed conforms ⊢
  obtain ⟨entries, isMap⟩ := Value.isMap_iff.mp (isMap_of_object_node conforms)
  rw [isMap] at conforms atType ⊢
  rw [findings_of_conforms_freed unmixed Alternatives.noExceptions_scalar (Entries.distinct_nil.assign _) rfl conforms,
    ← atType]
  rfl

end Schema

theorem ProjectType.exists_mem_names_iff {value : Value} :
    (∃ text ∈ ProjectType.all.map ProjectType.name, value = .string text) ↔
      ∃ type : ProjectType, value = .string type.name := by
  have every (type : ProjectType) : type ∈ ProjectType.all := by cases type <;> decide
  simp [every]

/-- Nothing is found in a name of a type, and one problem in any other value. -/
theorem Schema.findings_type (path : Path) (value : Value) :
    let type := Schema.ofChoices (ProjectType.all.map ProjectType.name)
    (∃ name : ProjectType, value = .string name.name) ∧ type.findings path value = [] ∨
      (∀ name : ProjectType, value ≠ .string name.name) ∧
        ∃ message meant, type.findings path value = Schema.rejection path value message meant := by
  intro type
  have some : ProjectType.all.map ProjectType.name ≠ [] := by decide
  by_cases named : ∃ name : ProjectType, value = .string name.name
  · have unmixed := (composable_plain.ofChoices (ProjectType.all.map ProjectType.name)).imp
      fun _ => Alternatives.Plain.unmixed
    have conforms := (conforms_ofChoices_iff some).mpr (ProjectType.exists_mem_names_iff.mpr named)
    exact Or.inl ⟨named, findings_eq_nil_iff.mpr ((problems_findings_iff unmixed path value).mpr conforms)⟩
  · have other : ∀ text ∈ ProjectType.all.map ProjectType.name, value ≠ .string text := fun text listed same =>
      named (ProjectType.exists_mem_names_iff.mp ⟨text, listed, same⟩)
    exact Or.inr ⟨fun name same => named ⟨name, same⟩, findings_ofChoices some other path⟩

/-- A check of flags rejects the type that they ask for, or finds nothing at all. -/
theorem findings_canonicalOverrides_cases (plugins : Preprocessors) (args : Arguments) :
    (∃ value message meant, args.flag? "type" = some value ∧ value ≠ .null ∧
      (∀ type : ProjectType, value ≠ .string type.name) ∧
      (Schema.userConfig plugins).findings .root (canonicalOverrides args) =
        Schema.rejection (Path.ofKeys ["type"]) value message meant) ∨
    (∀ value, args.flag? "type" = some value → value ≠ .null → ∃ type : ProjectType, value = .string type.name) ∧
      (Schema.userConfig plugins).findings .root (canonicalOverrides args) = [] := by
  rw [Schema.findings_canonicalOverrides]
  cases set : Value.notNull? (args.flag? "type") with
  | none =>
    exact Or.inr ⟨fun value asked notNull => (notNull (Value.notNull?_eq_none_iff.mp set value asked)).elim, rfl⟩
  | some value =>
    obtain ⟨asked, notNull⟩ := Value.notNull?_eq_some_iff.mp set
    rw [Option.elim_some]
    rcases Schema.findings_type (Path.ofKeys ["type"]) value with ⟨named, nothing⟩ | ⟨unnamed, message, meant, found⟩
    · refine Or.inr ⟨fun other same _ => ?_, nothing⟩
      rw [asked, Option.some.injEq] at same
      exact same ▸ named
    · exact Or.inl ⟨value, message, meant, asked, notNull, unnamed, found⟩

/-- Flags can be wrong in one way: by asking for a type that there is none of. For this there is a single error, and
hints at most beside it, all at the place of the type. Nothing about flags is deprecated, and whatever else they ask
for passes the check with any plugins installed. -/
theorem flags_err_only_in_type (args : Arguments) (plugins : Preprocessors) (report : Report) :
    let overrides := canonicalize (commandLineOverrides args)
    ∃ errors hints,
      (report.addAll overrides.2).validate (Schema.userConfig plugins) overrides.1 =
        { report with errors := report.errors ++ errors, hints := report.hints ++ hints } ∧
      (errors = [] ∨ ∃ value message, args.flag? "type" = some value ∧
        errors = [⟨Path.ofKeys ["type"], value, message⟩]) ∧
      (errors ≠ [] ↔ ∃ value, args.flag? "type" = some value ∧ value ≠ .null ∧
        ∀ type : ProjectType, value ≠ .string type.name) ∧
      ∀ hint ∈ hints, hint.path = Path.ofKeys ["type"] := by
  intro overrides
  have nothingSaid : report.addAll [] = report := rfl
  simp only [overrides, canonicalize_commandLineOverrides, nothingSaid]
  rw [Report.validate, Report.check, Report.addAll_eq, Schema.deprecationNotices_findings, List.append_nil]
  refine ⟨_, _, rfl, ?_⟩
  rcases findings_canonicalOverrides_cases plugins args with
    ⟨value, message, meant, asked, notNull, unnamed, found⟩ | ⟨named, nothing⟩
  · rw [found, Schema.problems_rejection]
    refine ⟨Or.inr ⟨value, message, asked, rfl⟩, ⟨fun _ => ⟨value, asked, notNull, unnamed⟩, by simp⟩, ?_⟩
    cases meant <;> simp [hintNotices, Schema.rejection, Finding.hint?]
  · rw [nothing]
    refine ⟨Or.inl rfl, ⟨fun wrong => (wrong rfl).elim, ?_⟩, by simp [hintNotices]⟩
    rintro ⟨value, asked, notNull, unnamed⟩
    obtain ⟨type, same⟩ := named value asked notNull
    exact (unnamed type same).elim

/-- A misspelt type, beside a short library name, a port that is no number and a host. -/
theorem flags_err_only_in_type_misspelt :
    let args : Arguments := ⟨["build"],
      [("type", .string "web-ap"), ("umd", .string "Widget"), ("port", .string "http"), ("host", .string "0.0.0.0")]⟩
    let overrides := canonicalize (commandLineOverrides args)
    let checked := ((Report.ofSource none).addAll overrides.2).validate (Schema.userConfig .empty) overrides.1
    (∃ message, checked.errors = [⟨Path.ofKeys ["type"], .string "web-ap", message⟩]) ∧ checked.deprecations = [] ∧
      ∀ hint ∈ checked.hints, hint.path = Path.ofKeys ["type"] := by
  intro args overrides checked
  have unnamed : ∀ type : ProjectType, Value.string "web-ap" ≠ .string type.name := by
    rintro ⟨⟩ <;> simp [ProjectType.name]
  obtain ⟨errors, hints, result, single, wrong, places⟩ := flags_err_only_in_type args .empty (Report.ofSource none)
  obtain ⟨value, message, asked, rfl⟩ :=
    single.resolve_left (wrong.mpr ⟨.string "web-ap", rfl, by simp, unnamed⟩)
  cases asked
  rw [show checked = _ from result]
  exact ⟨⟨message, rfl⟩, rfl, places⟩

end BuildConfig
