import BuildConfig.Proofs.TestRunner.BuiltIns
import Mathlib.Data.List.Forall2
import Mathlib.Data.List.TakeWhile

namespace BuildConfig

/-- What an entry of a plugin list goes by: the name it is, or what follows the first colon of its identifier. -/
def PluginEntry.GoesBy : PluginEntry → String → Prop
  | .bare given, name => name = given
  | .defined definition, name =>
    (':' ∉ definition.identifier.toList ∧ name = definition.identifier) ∨
      ∃ kind : String, ':' ∉ kind.toList ∧ definition.identifier = kind ++ ":" ++ name

theorem PluginEntry.goesBy_pluginName (entry : PluginEntry) : entry.GoesBy entry.pluginName := by
  cases entry with
  | bare name => rfl
  | defined definition =>
    have parts : definition.identifier.toList.takeWhile (· != ':') ++
        definition.identifier.toList.dropWhile (· != ':') = definition.identifier.toList :=
      List.takeWhile_append_dropWhile
    have before : ':' ∉ definition.identifier.toList.takeWhile (· != ':') := by
      intro listed
      simpa using List.mem_takeWhile_imp listed
    rw [GoesBy, pluginName, PluginDefinition.name]
    cases after : definition.identifier.toList.dropWhile (· != ':') with
    | nil =>
      rw [after, List.append_nil] at parts
      exact Or.inl ⟨parts ▸ before, rfl⟩
    | cons colon rest =>
      have isColon : colon = ':' := by
        have stops := List.head?_dropWhile_not (· != ':') definition.identifier.toList
        simpa [after] using stops
      refine Or.inr ⟨String.ofList (definition.identifier.toList.takeWhile (· != ':')), by simpa using before, ?_⟩
      rw [after, isColon] at parts
      apply String.toList_inj.mp
      simpa using parts.symm

/-- Reading items out of a list and writing them back keeps the items that can be read, as they are and in their
order. -/
theorem map_filterMap_eq_filter {α β : Type} {read : α → Option β} {write : β → α}
    (inverse : ∀ item value, read item = some value → write value = item) (items : List α) :
    (items.filterMap read).map write = items.filter fun item => (read item).isSome := by
  induction items with
  | nil => rfl
  | cons item rest ih =>
    cases reads : read item with
    | none => rw [List.filterMap_cons_none reads, List.filter_cons_of_neg (by simp [reads]), ih]
    | some value =>
      rw [List.filterMap_cons_some reads, List.filter_cons_of_pos (by simp [reads]), List.map_cons, ih,
        inverse item value reads]

theorem PluginEntry.defined_of_definition? (entry : PluginEntry) (definition : PluginDefinition)
    (reads : entry.definition? = some definition) : .defined definition = entry := by
  cases entry <;> cases reads
  rfl

theorem PluginEntry.bare_of_bareName? (entry : PluginEntry) (name : String) (reads : entry.bareName? = some name) :
    .bare name = entry := by
  cases entry <;> cases reads
  rfl

namespace PluginOptions

/-- The built-in definitions for bundling. -/
def bundling : List PluginDefinition :=
  [.ofPackage "preprocessor:sourcemap" "karma-sourcemap-loader", .ofPackage "webpackPlugin" "karma-webpack",
    .ofPackage "preprocessor:webpack" "karma-webpack"]

/-- The built-in definitions for coverage. -/
def covering : List PluginDefinition :=
  [.ofPackage "preprocessor:coverage" "karma-coverage", .ofPackage "reporter:coverage" "karma-coverage"]

/-- A built-in definition that goes with a browser or a framework, and whether that is in use. -/
structure Request where
  wanted : Bool
  identifier : String
  package : String

def requests (options : PluginOptions) : List Request :=
  [⟨options.browserNames.contains "PhantomJS", "launcher:PhantomJS", "karma-phantomjs-launcher"⟩,
    ⟨options.browserNames.contains "Chrome", "launcher:Chrome", "karma-chrome-launcher"⟩,
    ⟨options.frameworkNames.contains "mocha", "framework:mocha", "karma-mocha"⟩,
    ⟨options.frameworkNames.contains "mocha", "reporter:mocha", "karma-mocha-reporter"⟩]

/-- What comes of a request: its definition, unless the user has one of that identifier. -/
def answer (options : PluginOptions) (request : Request) : List PluginDefinition :=
  options.builtinUnlessSupplied request.wanted request.identifier request.package

/-- Everything that is built in, in the order in which it is loaded. -/
def builtInDefinitions : List PluginDefinition :=
  bundling
  ++ [.ofPackage "launcher:PhantomJS" "karma-phantomjs-launcher",
    .ofPackage "launcher:Chrome" "karma-chrome-launcher", .ofPackage "framework:mocha" "karma-mocha",
    .ofPackage "reporter:mocha" "karma-mocha-reporter"]
  ++ covering

variable {options : PluginOptions}

theorem builtins_eq (options : PluginOptions) :
    options.builtins =
      bundling ++ options.requests.flatMap options.answer ++ if options.coverage then covering else [] := by
  simp [builtins, bundling, requests, answer, covering]

theorem answer_eq_nil_or (options : PluginOptions) (request : Request) :
    options.answer request = [] ∨ options.answer request = [.ofPackage request.identifier request.package] := by
  unfold answer builtinUnlessSupplied
  split
  · exact Or.inr rfl
  · exact Or.inl rfl

theorem answer_ne_nil_iff {request : Request} :
    options.answer request ≠ [] ↔
      request.wanted = true ∧ ∀ supplied ∈ options.userDefinitions, supplied.identifier ≠ request.identifier := by
  have notSupplied : options.isUserSupplied request.identifier = false ↔
      ∀ supplied ∈ options.userDefinitions, supplied.identifier ≠ request.identifier := by
    simp [isUserSupplied]
  rw [answer, builtinUnlessSupplied, ← notSupplied]
  simp

/-- The built-in definitions are loaded in one fixed order, each at most once. -/
theorem builtins_sublist (options : PluginOptions) : options.builtins.Sublist builtInDefinitions := by
  have answered (requests : List Request) : (requests.flatMap options.answer).Sublist
      (requests.map fun request => .ofPackage request.identifier request.package) := by
    induction requests with
    | nil => exact .refl _
    | cons request rest ih =>
      rw [List.flatMap_cons, List.map_cons]
      rcases options.answer_eq_nil_or request with none | only
      · rw [none, List.nil_append]
        exact ih.cons _
      · rw [only, List.singleton_append]
        exact ih.cons_cons _
  have covered : (if options.coverage then covering else []).Sublist covering := by
    split
    · exact .refl _
    · exact List.nil_sublist _
  rw [builtins_eq]
  exact ((List.Sublist.refl bundling).append (answered options.requests)).append covered

theorem nodup_identifiers_builtins (options : PluginOptions) :
    (options.builtins.map PluginDefinition.identifier).Nodup := by
  have all : (builtInDefinitions.map PluginDefinition.identifier).Nodup := by decide
  exact all.sublist (options.builtins_sublist.map _)

theorem definitionsNamed_answer (options : PluginOptions) (identifier : String) (request : Request) :
    definitionsNamed identifier (options.answer request) =
      if request.identifier = identifier then options.answer request else [] := by
  rcases options.answer_eq_nil_or request with none | only
  · rw [none]
    simp [definitionsNamed]
  · rw [only]
    by_cases same : request.identifier = identifier <;> simp [definitionsNamed, PluginDefinition.ofPackage, same]

/-- What goes by the identifier of a request is what comes of it, and nothing else that is built in. -/
theorem definitionsNamed_request {request : Request} (listed : request ∈ options.requests) :
    definitionsNamed request.identifier options.builtins = options.answer request := by
  have others : ∀ identifier ∈ ["launcher:PhantomJS", "launcher:Chrome", "framework:mocha", "reporter:mocha"],
      definitionsNamed identifier bundling = [] ∧
        definitionsNamed identifier (if options.coverage then covering else []) = [] := by
    cases options.coverage <;> decide
  simp only [List.forall_mem_cons, List.not_mem_nil, false_imp_iff, forall_const, and_true] at others
  simp only [requests, List.mem_cons, List.not_mem_nil, or_false] at listed
  rw [builtins_eq, definitionsNamed_append, definitionsNamed_append, requests]
  have nothing (identifier : String) : definitionsNamed identifier [] = [] := rfl
  simp only [List.flatMap_cons, List.flatMap_nil, definitionsNamed_append, definitionsNamed_answer, nothing]
  rcases listed with rfl | rfl | rfl | rfl <;> simp [others]

/-- A built-in definition by the identifier of a request is there just if it is wanted and the user has none. -/
theorem exists_builtin_iff (request : Request) (listed : request ∈ options.requests) :
    (∃ definition ∈ options.builtins, definition.identifier = request.identifier) ↔
      request.wanted = true ∧ ∀ supplied ∈ options.userDefinitions, supplied.identifier ≠ request.identifier := by
  rw [← answer_ne_nil_iff, ← definitionsNamed_request listed, ne_eq, definitionsNamed_eq_nil_iff]
  simp

/-- A built-in definition stands, or answers a request. -/
theorem builtin_cases {definition : PluginDefinition} (held : definition ∈ options.builtins) :
    definition ∈ bundling ∨ (options.coverage = true ∧ definition ∈ covering) ∨
      ∃ request ∈ options.requests, definition.identifier = request.identifier := by
  rw [builtins_eq, List.mem_append, List.mem_append, List.mem_flatMap] at held
  rcases held with (bundles | ⟨request, listed, answers⟩) | covers
  · exact Or.inl bundles
  · refine Or.inr (Or.inr ⟨request, listed, ?_⟩)
    rcases options.answer_eq_nil_or request with none | only
    · rw [none] at answers
      cases answers
    · rw [only, List.mem_singleton] at answers
      rw [answers]
      rfl
  · split at covers
    · rename_i coverage
      exact Or.inr (Or.inl ⟨coverage, covers⟩)
    · cases covers

/-- Names go with the entries of a list, one for each and in their order. Where there is no list, one name stands in. -/
def NamesOf (list : Option (List PluginEntry)) (standIn : String) (names : List String) : Prop :=
  match list with
  | some entries => List.Forall₂ PluginEntry.GoesBy entries names
  | none => names = [standIn]

theorem namesOf_namesOr (list : Option (List PluginEntry)) (standIn : String) :
    NamesOf list standIn (namesOr list [standIn]) := by
  cases list with
  | none => rfl
  | some entries =>
    rw [NamesOf, namesOr, List.forall₂_map_right_iff, List.forall₂_same]
    exact fun entry _ => entry.goesBy_pluginName

/-- How the plugins to run tests with are put together: definitions that are built in, definitions of the user and bare
names. -/
structure Composition (options : PluginOptions) (builtIn user : List PluginDefinition) (bare : List String) : Prop where
  plugins : options.resolve.plugins = builtIn.map .defined ++ user.map .defined ++ bare.map .bare
  given : user.map .defined =
    (options.lists.flatMap fun list => list.2.getD []).filter fun entry => entry.definition?.isSome
  named : bare.map .bare = (options.plugins.getD []).filter fun entry => entry.bareName?.isSome
  known : builtIn.Sublist builtInDefinitions
  distinct : (builtIn.map PluginDefinition.identifier).Nodup
  launchers : ∀ browser identifier,
    (browser, identifier) ∈ [("PhantomJS", "launcher:PhantomJS"), ("Chrome", "launcher:Chrome")] →
    ((∃ definition ∈ builtIn, definition.identifier = identifier) ↔
      browser ∈ options.resolve.browsers ∧ ∀ definition ∈ user, definition.identifier ≠ identifier)
  mocha : ∀ identifier ∈ ["framework:mocha", "reporter:mocha"],
    ((∃ definition ∈ builtIn, definition.identifier = identifier) ↔
      "mocha" ∈ options.resolve.frameworks ∧ ∀ definition ∈ user, definition.identifier ≠ identifier)
  others : ∀ definition ∈ builtIn, definition ∈ bundling ∨ (options.coverage = true ∧ definition ∈ covering) ∨
    definition.identifier ∈ ["launcher:PhantomJS", "launcher:Chrome", "framework:mocha", "reporter:mocha"]
  bundled : ∀ wanted ∈ bundling, ∃ definition ∈ builtIn ++ user, definition.identifier = wanted.identifier
  covered : options.coverage = true →
    ∀ wanted ∈ covering, ∃ definition ∈ builtIn ++ user, definition.identifier = wanted.identifier
  browsers : NamesOf options.browsers "PhantomJS" options.resolve.browsers
  frameworks : NamesOf options.frameworks "mocha" options.resolve.frameworks
  reporters : ∃ names, NamesOf options.reporters (if options.frameworks.isNone then "mocha" else "dots") names ∧
    options.resolve.reporters = names ++ if options.coverage then ["coverage"] else []

theorem map_defined_userDefinitions (options : PluginOptions) : options.userDefinitions.map PluginEntry.defined =
    (options.lists.flatMap fun list => list.2.getD []).filter fun entry => entry.definition?.isSome := by
  have joined : options.userDefinitions =
      (options.lists.flatMap fun list => list.2.getD []).filterMap PluginEntry.definition? := by
    rw [userDefinitions_eq, List.filterMap_flatMap]
    rfl
  rw [joined, map_filterMap_eq_filter PluginEntry.defined_of_definition?]

/-- The resolved plugins are built-in definitions, then the user's definitions list by list, then the bare names of the
plugin list. The built-in ones stand, or go with a browser or a framework by whichever entry that is named. These last
give way to definitions of the user. -/
theorem resolved_plugins_composition (options : PluginOptions) :
    Composition options options.builtins options.userDefinitions
      ((options.plugins.getD []).filterMap PluginEntry.bareName?) where
  plugins := by rw [resolve, List.map_append]
  given := options.map_defined_userDefinitions
  named := map_filterMap_eq_filter PluginEntry.bare_of_bareName? _
  known := options.builtins_sublist
  distinct := options.nodup_identifiers_builtins
  launchers := by
    intro browser identifier listed
    simp only [List.mem_cons, Prod.mk.injEq, List.not_mem_nil, or_false] at listed
    have inUse (name : String) : options.browserNames.contains name = true ↔ name ∈ options.resolve.browsers :=
      List.contains_iff_mem
    rw [← inUse]
    rcases listed with ⟨rfl, rfl⟩ | ⟨rfl, rfl⟩
    · exact exists_builtin_iff ⟨_, "launcher:PhantomJS", "karma-phantomjs-launcher"⟩ (by simp [requests])
    · exact exists_builtin_iff ⟨_, "launcher:Chrome", "karma-chrome-launcher"⟩ (by simp [requests])
  mocha := by
    intro identifier listed
    simp only [List.mem_cons, List.not_mem_nil, or_false] at listed
    have inUse : options.frameworkNames.contains "mocha" = true ↔ "mocha" ∈ options.resolve.frameworks :=
      List.contains_iff_mem
    rw [← inUse]
    rcases listed with rfl | rfl
    · exact exists_builtin_iff ⟨_, "framework:mocha", "karma-mocha"⟩ (by simp [requests])
    · exact exists_builtin_iff ⟨_, "reporter:mocha", "karma-mocha-reporter"⟩ (by simp [requests])
  others := by
    intro definition held
    refine (builtin_cases held).imp_right (Or.imp_right ?_)
    rintro ⟨request, listed, same⟩
    simp only [requests, List.mem_cons, List.not_mem_nil, or_false] at listed
    rw [same]
    rcases listed with rfl | rfl | rfl | rfl <;> simp
  bundled := by
    intro wanted listed
    have held : wanted ∈ options.builtins := by
      rw [builtins_eq, List.append_assoc]
      exact List.mem_append_left _ listed
    exact ⟨wanted, List.mem_append_left _ held, rfl⟩
  covered := by
    intro coverage wanted listed
    have held : wanted ∈ options.builtins := by
      rw [builtins_eq, if_pos coverage]
      exact List.mem_append_right _ listed
    exact ⟨wanted, List.mem_append_left _ held, rfl⟩
  browsers := namesOf_namesOr options.browsers "PhantomJS"
  frameworks := namesOf_namesOr options.frameworks "mocha"
  reporters := by
    refine ⟨namesOr options.reporters [if options.frameworks.isNone then "mocha" else "dots"],
      namesOf_namesOr options.reporters _, ?_⟩
    show options.reporterNames = _
    rw [reporterNames]
    split <;> rfl

/-- A framework that is named by a definition of the user calls for the built-in reporter alone. -/
example :
    let options : PluginOptions := ⟨false, some [], some [.defined (.ofPackage "framework:mocha" "own")], none, none⟩
    options.resolve.frameworks = ["mocha"] ∧ options.resolve.reporters = ["dots"] ∧
      options.builtins.map PluginDefinition.identifier =
        ["preprocessor:sourcemap", "webpackPlugin", "preprocessor:webpack", "reporter:mocha"] := by
  decide

end PluginOptions

end BuildConfig
