import BuildConfig.CommandLine.Run
import BuildConfig.Proofs.Compile.Closure
import BuildConfig.Proofs.Toml.DistinctKeys

namespace BuildConfig

variable {compiles : String → Bool}

/-- A configuration file repeats no key, whatever its format. -/
theorem distinctKeys_readConfig {path text : String} {config : Value}
    (read : readConfig compiles path text = .ok config) : config.DistinctKeys := by
  unfold readConfig at read
  split at read
  · split at read
    · cases read
    · rename_i document parsed
      split at read
      · rename_i settled settles
        exact distinctKeys_of_toml parsed settles read
      · cases read
  · split at read
    · rename_i document parsed
      exact distinctKeys_of_json parsed read
    · cases read

theorem Workspace.distinctKeys_loadConfig {files : Workspace} {asked : Option String} {required : Bool}
    {loaded : LoadedConfig} (loads : files.loadConfig compiles asked required = .ok (some loaded)) :
    loaded.config.DistinctKeys := by
  obtain ⟨found, _, later⟩ := bind_eq_ok_iff.mp loads
  cases found with
  | none => cases later
  | some path =>
    obtain ⟨text, _, afterText⟩ := bind_eq_ok_iff.mp later
    obtain ⟨config, reads, same⟩ := bind_eq_ok_iff.mp afterText
    cases same
    exact distinctKeys_readConfig (mapError_eq_ok_iff.mp reads)

/-- Every flag is set to a tree that repeats no key. -/
def Arguments.DistinctFlags (args : Arguments) : Prop :=
  ∀ entry ∈ args.flags, entry.2.DistinctKeys

theorem Arguments.DistinctFlags.withFlag {args : Arguments} (flags : args.DistinctFlags) (name : String)
    {value : Value} (distinct : value.DistinctKeys) : (args.withFlag name value).DistinctFlags := by
  intro entry held
  rcases Entries.mem_insert_cases held with rfl | older
  · exact distinct
  · exact flags entry older

theorem distinctKeys_ofText {text : Option String} {value : Value} (set : text.map .string = some value) :
    value.DistinctKeys := by
  obtain ⟨given, _, rfl⟩ := Option.map_eq_some_iff.mp set
  exact Value.distinctKeys_leaf rfl rfl

theorem distinctKeys_ofSwitch {on truth : Bool} {value : Value}
    (set : (if on = true then some (Value.bool truth) else none) = some value) : value.DistinctKeys := by
  split at set
  · cases set
    exact Value.distinctKeys_leaf rfl rfl
  · cases set

/-- The flags of a command line are texts, numbers and truth values. -/
theorem ConfigFlags.distinctFlags_toArguments (flags : ConfigFlags) (command : String) :
    (flags.toArguments command).DistinctFlags := by
  unfold toArguments
  refine List.foldlRecOn _ _ ?_ ?_
  · intro entry held
    cases held
  · rintro args before ⟨name, set⟩ listed
    cases set with
    | none => exact before
    | some value =>
      refine before.withFlag name ?_
      simp only [List.mem_cons, List.not_mem_nil, or_false, Prod.mk.injEq] at listed
      rcases listed with ⟨_, type⟩ | ⟨_, umd⟩ | ⟨_, modules⟩ | ⟨_, browsers⟩ | ⟨_, host⟩ | ⟨_, port⟩ |
        ⟨_, keeping⟩ | ⟨_, opening⟩ | ⟨_, inferno⟩ | ⟨_, preact⟩ | ⟨_, reloading⟩
      · exact distinctKeys_ofText type.symm
      · obtain ⟨name, _, rfl⟩ := Option.map_eq_some_iff.mp umd.symm
        split <;> exact Value.distinctKeys_leaf rfl rfl
      · exact distinctKeys_ofText modules.symm
      · exact distinctKeys_ofText browsers.symm
      · exact distinctKeys_ofText host.symm
      · obtain ⟨number, _, rfl⟩ := Option.map_eq_some_iff.mp port.symm
        exact Value.distinctKeys_leaf rfl rfl
      · exact distinctKeys_ofSwitch keeping.symm
      · exact distinctKeys_ofSwitch opening.symm
      · exact distinctKeys_ofSwitch inferno.symm
      · exact distinctKeys_ofSwitch preact.symm
      · exact distinctKeys_ofSwitch reloading.symm

namespace Command

variable {files : Workspace} {flags : ConfigFlags}

theorem distinctFlags_arguments (flags : ConfigFlags) (command : Command) :
    (command.arguments flags).DistinctFlags := by
  cases command with
  | checkConfig => exact flags.distinctFlags_toArguments "check-config"
  | config name => exact flags.distinctFlags_toArguments name
  | testPlugins coverage full =>
    have shared := flags.distinctFlags_toArguments "test"
    cases coverage with
    | false => exact shared
    | true => exact shared.withFlag "coverage" (Value.distinctKeys_leaf rfl rfl)

variable {command : Command} {run : Invocation} {user : UserConfig}

/-- What a command hands to the compiler repeats no key. -/
theorem wellKeyed_prepare (prepares : command.prepare compiles files flags = .ok (run, user)) :
    run.WellKeyed user := by
  obtain ⟨plugins, _, later⟩ := bind_eq_ok_iff.mp prepares
  obtain ⟨found, loads, same⟩ := bind_eq_ok_iff.mp later
  have given := distinctFlags_arguments flags command
  cases found with
  | none =>
    cases same
    exact .of_flags given Value.distinctKeys_empty
  | some loaded =>
    cases same
    exact .of_flags given (files.distinctKeys_loadConfig loads)

theorem plugins_of_prepare (prepares : command.prepare compiles files flags = .ok (run, user)) :
    files.scanPlugins compiles = .ok run.plugins := by
  obtain ⟨plugins, scans, later⟩ := bind_eq_ok_iff.mp prepares
  obtain ⟨found, _, same⟩ := bind_eq_ok_iff.mp later
  cases found <;> cases same <;> exact scans

variable (compiles : String → Bool) (palette : Palette) (files : Workspace) (flags : ConfigFlags)

/-- Every run of the command line is well keyed: it fails before there is anything to compile, or it performs its
command on flags and a user's part that repeat no key. -/
theorem run_cases (command : Command) :
    (∃ failure, command.prepare compiles files flags = .error failure ∧
      command.run compiles palette files flags = .fail palette failure) ∨
    ∃ run user, command.prepare compiles files flags = .ok (run, user) ∧ run.WellKeyed user ∧
      command.run compiles palette files flags = .ofResult palette (command.perform palette run user) := by
  unfold Command.run
  cases prepares : command.prepare compiles files flags with
  | error failure => exact Or.inl ⟨failure, rfl, rfl⟩
  | ok made => exact Or.inr ⟨made.1, made.2, rfl, wellKeyed_prepare prepares, rfl⟩

/-- A configuration that is written conforms to the schema with the plugins that are installed. -/
theorem written_config_conforms (name : String)
    (succeeds : ((config name).run compiles palette files flags).exitCode = 0) :
    ∃ plugins settings, files.scanPlugins compiles = .ok plugins ∧
      (Schema.userConfig plugins).Conforms (Settings.toValue settings) ∧
      ((config name).run compiles palette files flags).output = jsonLines settings.toValue := by
  rcases run_cases compiles palette files flags (.config name) with
    ⟨failure, _, fails⟩ | ⟨run, user, prepares, keyed, performs⟩
  · rw [fails] at succeeds
    cases succeeds
  · rw [performs] at succeeds ⊢
    rw [perform, showConfig] at succeeds ⊢
    cases result : run.compile user with
    | error failure =>
      rw [result] at succeeds
      cases succeeds
    | ok compiled =>
      exact ⟨run.plugins, compiled.settings, plugins_of_prepare prepares,
        Invocation.conforms_of_compile keyed result, rfl⟩

end Command

end BuildConfig
