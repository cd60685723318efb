import BuildConfig.Proofs.Canonical
import BuildConfig.Proofs.Compile.Settings

namespace BuildConfig

open Value (notNull?)

/-- The trees that come into a run repeat no key, as every map is a table by its keys. -/
structure Invocation.WellKeyed (run : Invocation) (user : UserConfig) : Prop where
  flags : ∀ name value, run.args.flag? name = some value → value.DistinctKeys
  user : (user.evaluate run.context).DistinctKeys

theorem Invocation.WellKeyed.of_flags {run : Invocation} {user : UserConfig}
    (flags : ∀ entry ∈ run.args.flags, entry.2.DistinctKeys) (distinct : (user.evaluate run.context).DistinctKeys) :
    run.WellKeyed user :=
  ⟨fun _ _ given => flags _ (Entries.mem_of_get? given), distinct⟩

section Overrides

variable {args : Arguments}

theorem distinctKeys_insertSome {config : Value} (distinct : config.DistinctKeys) (path : List String)
    {set : Option Value} (distinctSet : ∀ value, set = some value → value.DistinctKeys) :
    (config.insertSome path set).DistinctKeys := by
  cases set with
  | none => exact distinct
  | some value => exact distinct.insertPath (distinctSet value rfl) path

theorem isScalar_umdFlag? {value : Value} (set : umdFlag? args = some value) :
    value.isMap = false ∧ value.isArray = false := by
  unfold umdFlag? at set
  split at set
  · cases set
    exact ⟨rfl, rfl⟩
  · cases set
    exact ⟨rfl, rfl⟩
  · cases set

theorem distinctKeys_portValue {value : Value} (distinct : value.DistinctKeys) :
    (portValue value).DistinctKeys := by
  unfold portValue
  split
  · split <;> exact Value.distinctKeys_leaf rfl rfl
  · exact distinct

/-- Flags stand for trees without repeated keys, as long as no flag is set to one that has some. -/
theorem distinctKeys_commandLineOverrides
    (flags : ∀ name value, args.flag? name = some value → value.DistinctKeys) :
    (commandLineOverrides args).DistinctKeys := by
  unfold commandLineOverrides
  refine List.foldlRecOn _ _ Value.distinctKeys_empty ?_
  rintro config before ⟨path, set⟩ listed
  refine distinctKeys_insertSome before path fun value isSet => ?_
  subst isSet
  simp only [List.mem_cons, List.not_mem_nil, or_false, Prod.mk.injEq] at listed
  rcases listed with ⟨_, type⟩ | ⟨_, umd⟩ | ⟨_, modules⟩ | ⟨_, removing⟩ | ⟨_, browsers⟩ | ⟨_, host⟩ | ⟨_, port⟩ |
    ⟨_, opened⟩
  · exact flags "type" value type.symm
  · obtain ⟨notMap, notArray⟩ := isScalar_umdFlag? umd.symm
    exact Value.distinctKeys_leaf notMap notArray
  · obtain ⟨truth, _, rfl⟩ := Option.map_eq_some_iff.mp modules.symm
    exact Value.distinctKeys_leaf rfl rfl
  · split at removing
    · cases removing
      exact Value.distinctKeys_leaf rfl rfl
    · cases removing
  · obtain ⟨text, _, rfl⟩ := Option.map_eq_some_iff.mp browsers.symm
    exact distinctKeys_strings (listItems text)
  · obtain ⟨text, _, rfl⟩ := Option.map_eq_some_iff.mp host.symm
    exact Value.distinctKeys_leaf rfl rfl
  · obtain ⟨flag, given, rfl⟩ := Option.map_eq_some_iff.mp port.symm
    exact distinctKeys_portValue (flags "port" flag given)
  · exact flags "open" value opened.symm

end Overrides

namespace Invocation

variable {run : Invocation} {user : UserConfig}

/-- The errors of a run are those of the user's part, then those of the overrides. -/
theorem check_errors (run : Invocation) (user : UserConfig) :
    (run.check user).report.errors =
      problems ((Schema.userConfig run.plugins).findings .root (run.check user).user) ++
        problems ((Schema.userConfig run.plugins).findings .root (run.check user).overrides) := by
  simp only [check, Report.validate, Report.check, Report.addAll_errors, problems_canonicalize, Report.ofSource,
    List.nil_append, List.append_nil]

theorem check_conforms (clean : (run.check user).report.hasErrors = false) :
    (Schema.userConfig run.plugins).Conforms (run.check user).user ∧
      (Schema.userConfig run.plugins).Conforms (run.check user).overrides := by
  have none : (run.check user).report.errors = [] := by simpa [Report.hasErrors] using clean
  rw [check_errors, List.append_eq_nil_iff] at none
  have unmixed := Schema.unmixed_userConfig run.plugins
  exact none.imp (Schema.problems_findings_iff unmixed .root _).mp (Schema.problems_findings_iff unmixed .root _).mp

theorem layers_of_clean (keyed : run.WellKeyed user) (clean : (run.check user).report.hasErrors = false) :
    Layer run.plugins (run.check user).user ∧ Layer run.plugins (run.check user).overrides := by
  obtain ⟨userConforms, overridesConform⟩ := check_conforms clean
  exact ⟨⟨userConforms, keyed.user.canonicalize⟩,
    ⟨overridesConform, (distinctKeys_commandLineOverrides keyed.flags).canonicalize⟩⟩

/-- The layers of a run, the highest first. -/
def layers (run : Invocation) (user : UserConfig) (type : Option ProjectType) : List Value :=
  [(run.check user).overrides, (run.check user).user, projectDefaults type run.mode run.args, baseline]

/-- All layers of a run over each other, with loader options where the build tools look for them. -/
def tree (run : Invocation) (user : UserConfig) (type : Option ProjectType) : Value :=
  hoistConfig run.plugins (mergeLayers (run.layers user type).reverse)

theorem tree_eq (run : Invocation) (user : UserConfig) (type : Option ProjectType) :
    run.tree user type = hoistConfig run.plugins (mergeLayers
      [baseline, projectDefaults type run.mode run.args, (run.check user).user, (run.check user).overrides]) :=
  rfl

theorem declaredType_eq (checked : Checked) :
    declaredType checked = typeNamed ((checked.overrides.get? "type").or (checked.user.get? "type")) := by
  unfold declaredType typeNamed
  rfl

theorem declaredType_of_layers {plugins : Preprocessors} {checked : Checked} (user : Layer plugins checked.user)
    (overrides : Layer plugins checked.overrides) : ∃ type, declaredType checked = .ok type := by
  rw [declaredType_eq]
  cases given : checked.overrides.get? "type" with
  | none =>
    obtain ⟨type, named, _⟩ := user.typeNamed
    exact ⟨type, named⟩
  | some value =>
    obtain ⟨type, named, _⟩ := overrides.typeNamed
    rw [given] at named
    exact ⟨type, named⟩

theorem layer_of_mem_layers (keyed : run.WellKeyed user) (clean : (run.check user).report.hasErrors = false)
    (type : Option ProjectType) : ∀ layer ∈ run.layers user type, Layer run.plugins layer := by
  obtain ⟨userLayer, overridesLayer⟩ := layers_of_clean keyed clean
  intro layer listed
  simp only [layers, List.mem_cons, List.not_mem_nil, or_false] at listed
  rcases listed with rfl | rfl | rfl | rfl
  · exact overridesLayer
  · exact userLayer
  · exact layer_projectDefaults run.plugins type run.mode run.args
  · exact (complete_baseline run.plugins).toLayer

theorem complete_tree (keyed : run.WellKeyed user) (clean : (run.check user).report.hasErrors = false)
    (type : Option ProjectType) : Complete run.plugins (run.tree user type) := by
  rw [tree_eq]
  refine (complete_mergeLayers fun layer listed => layer_of_mem_layers keyed clean type layer ?_).hoistConfig
  simp only [List.mem_cons, List.not_mem_nil, or_false] at listed
  rcases listed with rfl | rfl | rfl <;> simp [layers]

theorem compile_of_errors (failing : (run.check user).report.hasErrors = true) :
    run.compile user = .error (.configValidation (run.check user).report) := by
  simp only [compile, failing, if_true]
  rfl

/-- A run without errors has a result: its tree without the nulls at the top. -/
theorem compile_of_clean (keyed : run.WellKeyed user) (clean : (run.check user).report.hasErrors = false) :
    ∃ type settings, declaredType (run.check user) = .ok type ∧
      run.compile user = .ok ⟨settings, (run.check user).report⟩ ∧
      ∀ key, settings.toValue.get? key = notNull? ((run.tree user type).get? key) := by
  obtain ⟨userLayer, overridesLayer⟩ := layers_of_clean keyed clean
  obtain ⟨type, declared⟩ := declaredType_of_layers userLayer overridesLayer
  have complete := complete_tree keyed clean type
  obtain ⟨mergedType, named, atType⟩ := complete.toLayer.typeNamed
  refine ⟨type, Settings.split mergedType (run.tree user type), declared, ?_, Settings.get?_toValue complete atType⟩
  have splits : Settings.ofValue (run.tree user type) = .ok (Settings.split mergedType (run.tree user type)) := by
    rw [Settings.ofValue_eq, named]
    rfl
  rw [tree_eq] at splits
  simp only [compile, clean, declared]
  simp only [bind, Except.bind, pure, Except.pure]
  rw [splits]
  rfl

theorem clean_of_compile_eq_ok {compiled : Compiled} (compiles : run.compile user = .ok compiled) :
    (run.check user).report.hasErrors = false := by
  cases failing : (run.check user).report.hasErrors with
  | false => rfl
  | true =>
    rw [compile_of_errors failing] at compiles
    cases compiles

end Invocation

end BuildConfig
