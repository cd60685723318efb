import BuildConfig.TestRunner.Plugins

namespace BuildConfig

/-- The definitions that go by an identifier, in their order. -/
def definitionsNamed (identifier : String) (definitions : List PluginDefinition) : List PluginDefinition :=
  definitions.filter fun definition => definition.identifier == identifier

section Named

variable {identifier : String} {definitions : List PluginDefinition}

theorem mem_definitionsNamed_iff {definition : PluginDefinition} :
    definition ∈ definitionsNamed identifier definitions ↔
      definition ∈ definitions ∧ definition.identifier = identifier := by
  rw [definitionsNamed, List.mem_filter, beq_iff_eq]

theorem definitionsNamed_eq_nil_iff :
    definitionsNamed identifier definitions = [] ↔
      ∀ definition ∈ definitions, definition.identifier ≠ identifier := by
  simp only [definitionsNamed, List.filter_eq_nil_iff, beq_iff_eq, ne_eq]

theorem definitionsNamed_append (identifier : String) (definitions more : List PluginDefinition) :
    definitionsNamed identifier (definitions ++ more) =
      definitionsNamed identifier definitions ++ definitionsNamed identifier more :=
  List.filter_append ..

/-- A look-up gives the first of the definitions that go by the identifier. -/
theorem PluginEntry.find?_eq_head? (entries : List PluginEntry) (identifier : String) :
    find? entries identifier = (definitionsNamed identifier (entries.filterMap definition?)).head? := by
  rw [find?, definitionsNamed, List.head?_filter]

end Named

namespace PluginOptions

/-- The lists of the user by their keys, in the order in which they are read. -/
def lists (options : PluginOptions) : List (String × Option (List PluginEntry)) :=
  [("browsers", options.browsers), ("frameworks", options.frameworks), ("reporters", options.reporters),
    ("plugins", options.plugins)]

variable {options : PluginOptions}

theorem userDefinitions_eq (options : PluginOptions) :
    options.userDefinitions = options.lists.flatMap fun list => definitionsIn list.2 := by
  simp [userDefinitions, lists]

theorem mem_userDefinitions {key : String} {entries : List PluginEntry} {definition : PluginDefinition}
    (listed : (key, some entries) ∈ options.lists) (supplied : .defined definition ∈ entries) :
    definition ∈ options.userDefinitions := by
  rw [userDefinitions_eq]
  exact List.mem_flatMap.mpr ⟨_, listed, List.mem_filterMap.mpr ⟨_, supplied, rfl⟩⟩

theorem isUserSupplied_iff {identifier : String} :
    options.isUserSupplied identifier = true ↔ definitionsNamed identifier options.userDefinitions ≠ [] := by
  simp [isUserSupplied, definitionsNamed_eq_nil_iff]

/-- The built-in definitions that do not give way to definitions of the user: those for bundling, and
with coverage those for it. -/
def standing (options : PluginOptions) : List PluginDefinition :=
  [.ofPackage "preprocessor:sourcemap" "karma-sourcemap-loader", .ofPackage "webpackPlugin" "karma-webpack",
    .ofPackage "preprocessor:webpack" "karma-webpack"]
  ++ if options.coverage then
      [.ofPackage "preprocessor:coverage" "karma-coverage", .ofPackage "reporter:coverage" "karma-coverage"]
    else []

/-- No two of them go by one identifier. -/
theorem definitionsNamed_standing {definition : PluginDefinition} (stands : definition ∈ options.standing) :
    definitionsNamed definition.identifier options.standing = [definition] := by
  obtain ⟨coverage, _, _, _, _⟩ := options
  cases coverage with
  | false =>
    simp only [standing, Bool.false_eq_true, if_false, List.append_nil, List.mem_cons, List.not_mem_nil,
      or_false] at stands
    rcases stands with rfl | rfl | rfl <;> rfl
  | true =>
    simp only [standing, if_true, List.mem_append, List.mem_cons, List.not_mem_nil, or_false] at stands
    rcases stands with (rfl | rfl | rfl) | rfl | rfl <;> rfl

theorem definitionsNamed_builtinUnlessSupplied {identifier : String}
    (supplied : options.isUserSupplied identifier = true) (wanted : Bool) (name package : String) :
    definitionsNamed identifier (options.builtinUnlessSupplied wanted name package) = [] := by
  rw [definitionsNamed_eq_nil_iff, builtinUnlessSupplied]
  intro definition added same
  split at added
  · rename_i missing
    cases List.mem_singleton.mp added
    have sameName : name = identifier := same
    simp [sameName, supplied] at missing
  · cases added

/-- Of the built-in definitions only those that stand can share an identifier with the user. -/
theorem definitionsNamed_builtins {identifier : String} (supplied : options.isUserSupplied identifier = true) :
    definitionsNamed identifier options.builtins = definitionsNamed identifier options.standing := by
  simp only [builtins, standing, definitionsNamed_append, definitionsNamed_builtinUnlessSupplied supplied,
    List.append_nil]

theorem definitions_resolve (options : PluginOptions) :
    options.resolve.plugins.filterMap PluginEntry.definition? = options.builtins ++ options.userDefinitions := by
  have bare (names : List String) : (names.map PluginEntry.bare).filterMap PluginEntry.definition? = [] := by
    simp [List.filterMap_map, Function.comp_def, PluginEntry.definition?]
  have defined (definitions : List PluginDefinition) :
      (definitions.map PluginEntry.defined).filterMap PluginEntry.definition? = definitions := by
    simp [List.filterMap_map, Function.comp_def, PluginEntry.definition?]
  rw [resolve, List.filterMap_append, bare, defined, List.append_nil]

/-- A definition of the user takes the place of the built-in one: a look-up in the resolved plugins gives
the user's first definition of an identifier, and no built-in one goes by it. The built-in definitions
that stand are the exception. They stay where they are, before the user's, and are found instead. -/
theorem supplied_definition_found_unless_standing {key : String} {entries : List PluginEntry}
    {definition : PluginDefinition} (listed : (key, some entries) ∈ options.lists)
    (supplied : .defined definition ∈ entries) :
    ∃ first others, definitionsNamed definition.identifier options.userDefinitions = first :: others ∧
      ((∀ builtin ∈ options.standing, builtin.identifier ≠ definition.identifier) →
        PluginEntry.find? options.resolve.plugins definition.identifier = some first ∧
          definitionsNamed definition.identifier (options.resolve.plugins.filterMap PluginEntry.definition?) =
            first :: others ∧
          ∀ builtin ∈ options.builtins, builtin.identifier ≠ definition.identifier) ∧
      ∀ builtin ∈ options.standing, builtin.identifier = definition.identifier →
        PluginEntry.find? options.resolve.plugins definition.identifier = some builtin ∧
          definitionsNamed definition.identifier (options.resolve.plugins.filterMap PluginEntry.definition?) =
            builtin :: first :: others := by
  have held : definition ∈ definitionsNamed definition.identifier options.userDefinitions :=
    mem_definitionsNamed_iff.mpr ⟨mem_userDefinitions listed supplied, rfl⟩
  obtain ⟨first, others, user⟩ := List.exists_cons_of_ne_nil (List.ne_nil_of_mem held)
  have isSupplied : options.isUserSupplied definition.identifier = true :=
    isUserSupplied_iff.mpr (List.ne_nil_of_mem held)
  have builtins := definitionsNamed_builtins isSupplied
  have resolved : definitionsNamed definition.identifier
      (options.resolve.plugins.filterMap PluginEntry.definition?) =
        definitionsNamed definition.identifier options.standing ++ first :: others := by
    rw [definitions_resolve, definitionsNamed_append, builtins, user]
  refine ⟨first, others, user, fun nothing => ?_, fun builtin stands same => ?_⟩
  · have none := definitionsNamed_eq_nil_iff.mpr nothing
    rw [none, List.nil_append] at resolved
    rw [PluginEntry.find?_eq_head?, resolved]
    exact ⟨rfl, rfl, definitionsNamed_eq_nil_iff.mp (builtins.trans none)⟩
  · have only := definitionsNamed_standing stands
    rw [same] at only
    rw [only, List.singleton_append] at resolved
    rw [PluginEntry.find?_eq_head?, resolved]
    exact ⟨rfl, rfl⟩

/-- A framework that is defined twice, and the reporter that coverage brings along. -/
theorem supplied_definition_found_unless_standing_mocha :
    let first : PluginDefinition := .ofPackage "framework:mocha" "my-mocha"
    let second : PluginDefinition := ⟨"framework:mocha", []⟩
    let reporter : PluginDefinition := .ofPackage "reporter:coverage" "my-coverage"
    let frameworks : List PluginEntry := [.bare "mocha", .defined first]
    let plugins : List PluginEntry := [.defined second, .defined reporter]
    let options : PluginOptions := ⟨true, none, some frameworks, none, some plugins⟩
    ("frameworks", some frameworks) ∈ options.lists ∧ .defined first ∈ frameworks ∧
      ("plugins", some plugins) ∈ options.lists ∧ .defined reporter ∈ plugins ∧
      PluginEntry.find? options.resolve.plugins "framework:mocha" = some first ∧
      (∀ builtin ∈ options.builtins, builtin.identifier ≠ "framework:mocha") ∧
      PluginEntry.find? options.resolve.plugins "reporter:coverage" =
        some (.ofPackage "reporter:coverage" "karma-coverage") := by
  intro first second reporter frameworks plugins options
  have inFrameworks : ("frameworks", some frameworks) ∈ options.lists := by simp [lists, options]
  have inPlugins : ("plugins", some plugins) ∈ options.lists := by simp [lists, options]
  have supplied : .defined first ∈ frameworks := by simp [frameworks]
  have alsoSupplied : .defined reporter ∈ plugins := by simp [plugins]
  obtain ⟨found, _, user, gives, _⟩ := supplied_definition_found_unless_standing inFrameworks supplied
  have both : definitionsNamed first.identifier options.userDefinitions = [first, second] := rfl
  cases user.symm.trans both
  obtain ⟨finds, _, none⟩ := gives (definitionsNamed_eq_nil_iff.mp rfl)
  obtain ⟨_, _, _, _, stays⟩ := supplied_definition_found_unless_standing inPlugins alsoSupplied
  have stands : .ofPackage "reporter:coverage" "karma-coverage" ∈ options.standing := by simp [standing, options]
  exact ⟨inFrameworks, supplied, inPlugins, alsoSupplied, finds, none, (stays _ stands rfl).1⟩

/-- A definition of a bundling plugin by the user is not found behind the built-in one. -/
theorem standing_definition_hides_supplied_webpack :
    let supplied : PluginDefinition := .ofPackage "preprocessor:webpack" "my-webpack"
    let builtin : PluginDefinition := .ofPackage "preprocessor:webpack" "karma-webpack"
    let options : PluginOptions := ⟨false, none, none, none, some [.defined supplied]⟩
    options.userDefinitions = [supplied] ∧ .defined builtin ∈ options.resolve.plugins ∧
      PluginEntry.find? options.resolve.plugins "preprocessor:webpack" = some builtin ∧ builtin ≠ supplied := by
  intro supplied builtin options
  have loaded : .defined builtin ∈ options.resolve.plugins := by simp [resolve, builtins, options, builtin]
  have different : builtin ≠ supplied := by simp [builtin, supplied, PluginDefinition.ofPackage]
  exact ⟨rfl, loaded, rfl, different⟩

end PluginOptions

end BuildConfig
