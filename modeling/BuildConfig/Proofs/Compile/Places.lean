import BuildConfig.Proofs.Canonical.Untouched
import BuildConfig.Proofs.Compile.Runs
import BuildConfig.Proofs.Hoist.Places

namespace BuildConfig

/-- The places that flags stand for. -/
def overridePlaces : List (List String) :=
  [["type"], ["npm", "umd"], ["npm", "esModules"], ["babel", "removePropTypes"], ["karma", "browsers"],
    ["devServer", "host"], ["devServer", "port"], ["devServer", "open"]]

/-- Puts values, where there are some, at one place after the other. -/
def Value.insertEach (config : Value) (assignments : List (List String × Option Value)) : Value :=
  assignments.foldl (fun config (path, value) => config.insertSome path value) config

theorem Value.insertEach_cons (config : Value) (path : List String) (set : Option Value)
    (rest : List (List String × Option Value)) :
    config.insertEach ((path, set) :: rest) = (config.insertSome path set).insertEach rest := rfl

/-- What flags put at their places. What is put at that of the library name is left open. -/
def flagAssignments (args : Arguments) (umd : Option Value) : List (List String × Option Value) :=
  [(["type"], args.flag? "type"),
    (["npm", "umd"], umd),
    (["npm", "esModules"], ((args.flag? "es-modules").bind truthValue?).map .bool),
    (["babel", "removePropTypes"], if keepsPropTypes args then some (.bool false) else none),
    (["karma", "browsers"], (args.flagText? "browsers").map fun text => .array ((listItems text).map .string)),
    (["devServer", "host"], (args.flagText? "host").map .string),
    (["devServer", "port"], (args.flag? "port").map portValue),
    (["devServer", "open"], args.flag? "open")]

theorem commandLineOverrides_eq (args : Arguments) :
    commandLineOverrides args = Value.empty.insertEach (flagAssignments args (umdFlag? args)) := rfl

theorem map_fst_flagAssignments (args : Arguments) (umd : Option Value) :
    (flagAssignments args umd).map Prod.fst = overridePlaces := rfl

/-- The places that types of project have defaults for. -/
def defaultPlaces : List (List String) :=
  [["babel", "presets"], ["babel", "removePropTypes"], ["webpack", "aliases"]]

section Parts

variable {place : List String}

theorem getPath?_insertSome_of_apart {path : List String} (apart : Apart path place) (config : Value)
    (set : Option Value) : (config.insertSome path set).getPath? place = config.getPath? place := by
  cases set with
  | none => rfl
  | some value => exact Value.getPath?_insertPath_of_apart apart config value

theorem getPath?_insertEach_of_apart {assignments : List (List String × Option Value)}
    (apart : ∀ path ∈ assignments.map Prod.fst, Apart path place) (config : Value) :
    (config.insertEach assignments).getPath? place = config.getPath? place := by
  induction assignments generalizing config with
  | nil => rfl
  | cons assignment rest ih =>
    rw [List.map_cons, List.forall_mem_cons] at apart
    exact (ih apart.2 _).trans (getPath?_insertSome_of_apart apart.1 config assignment.2)

/-- Of values that are put at places apart from each other none hides another. -/
theorem getPath?_insertEach_of_mem {assignments : List (List String × Option Value)}
    (apart : (assignments.map Prod.fst).Pairwise Apart) {set : Option Value} (listed : (place, set) ∈ assignments)
    {config : Value} (vacant : config.getPath? place = none) :
    (config.insertEach assignments).getPath? place = set := by
  induction assignments generalizing config with
  | nil => cases listed
  | cons assignment rest ih =>
    obtain ⟨path, first⟩ := assignment
    obtain ⟨apartFirst, apartRest⟩ := List.pairwise_cons.mp apart
    rw [Value.insertEach_cons]
    rcases List.mem_cons.mp listed with here | later
    · cases here
      rw [getPath?_insertEach_of_apart fun path among => (apartFirst path among).symm]
      cases set with
      | none => exact vacant
      | some value => exact Value.getPath?_insertPath_self config value place
    · have elsewhere : Apart path place := apartFirst place (List.mem_map.mpr ⟨_, later, rfl⟩)
      exact ih apartRest later ((getPath?_insertSome_of_apart elsewhere config first).trans vacant)

theorem getPath?_flags_of_apart (apart : ∀ path ∈ overridePlaces, Apart path place) (args : Arguments)
    (umd : Option Value) : (Value.empty.insertEach (flagAssignments args umd)).getPath? place = none := by
  have nonempty : place ≠ [] := (apart ["type"] (by simp [overridePlaces])).ne_nil
  rw [← map_fst_flagAssignments args umd] at apart
  rw [getPath?_insertEach_of_apart apart, Value.getPath?_empty nonempty]

theorem getPath?_flags_of_mem {args : Arguments} {umd set : Option Value}
    (listed : (place, set) ∈ flagAssignments args umd) :
    (Value.empty.insertEach (flagAssignments args umd)).getPath? place = set := by
  have apart : overridePlaces.Pairwise Apart := by decide
  have nonempty : ∀ path ∈ overridePlaces, path ≠ [] := by decide
  rw [← map_fst_flagAssignments args umd] at apart nonempty
  exact getPath?_insertEach_of_mem apart listed
    (Value.getPath?_empty (nonempty place (List.mem_map.mpr ⟨_, listed, rfl⟩)))

/-- Flags stand for nothing apart from their places. -/
theorem getPath?_commandLineOverrides_of_apart (apart : ∀ path ∈ overridePlaces, Apart path place) (args : Arguments) :
    (commandLineOverrides args).getPath? place = none :=
  getPath?_flags_of_apart apart args (umdFlag? args)

/-- Only the flag for the type stands for a type. -/
theorem getPath?_commandLineOverrides_type (args : Arguments) :
    (commandLineOverrides args).getPath? ["type"] = args.flag? "type" :=
  getPath?_flags_of_mem (.head _)

theorem getPath?_projectDefaults_of_apart (apart : ∀ path ∈ defaultPlaces, Apart path place)
    (type : Option ProjectType) (mode : BuildMode) (args : Arguments) :
    (projectDefaults type mode args).getPath? place = none := by
  simp only [defaultPlaces, List.mem_cons, List.not_mem_nil, or_false, forall_eq_or_imp, forall_eq] at apart
  obtain ⟨presets, removing, aliases⟩ := apart
  refine @projectDefaults_induction (fun config => config.getPath? place = none) ?_ ?_ ?_ ?_ type mode args
  · exact Value.getPath?_empty presets.ne_nil
  · exact fun config names before => (Value.getPath?_insertPath_of_apart presets _ _).trans before
  · exact fun config compat before => (Value.getPath?_insertPath_of_apart aliases _ _).trans before
  · exact fun config mode before => (Value.getPath?_insertPath_of_apart removing _ _).trans before

end Parts

namespace Invocation

variable {place : List String}

/-- What canonical form does not touch, a run takes from the user's tree as it is. -/
theorem getPath?_check_user (untouched : ∀ path ∈ canonicalPlaces, Apart path place) (run : Invocation)
    (user : UserConfig) : (run.check user).user.getPath? place = (user.evaluate run.context).getPath? place :=
  getPath?_canonicalize_of_apart untouched _

theorem getPath?_check_overrides (untouched : ∀ path ∈ canonicalPlaces, Apart path place) (run : Invocation)
    (user : UserConfig) : (run.check user).overrides.getPath? place = (commandLineOverrides run.args).getPath? place :=
  getPath?_canonicalize_of_apart untouched _

end Invocation

end BuildConfig
