import BuildConfig.Proofs.Compile.Runs

namespace BuildConfig

/-- A configuration that is no function of the run: there is none, or it is a tree. -/
def UserConfig.IsPlain : UserConfig → Prop
  | .absent => True
  | .tree _ => True
  | .transform _ => False

theorem UserConfig.IsPlain.evaluate_eq {user : UserConfig} (plain : user.IsPlain) (context other : Context) :
    user.evaluate context = user.evaluate other := by
  cases user with
  | absent => rfl
  | tree => rfl
  | transform => exact plain.elim

namespace Invocation

variable {run : Invocation} {user : UserConfig}

/-- The run with the same flags, plugins and configuration file under other positional arguments, the
command among them, and in another mode. -/
def under (run : Invocation) (positional : List String) (mode : BuildMode) : Invocation :=
  { run with args := { run.args with positional := positional }, mode := mode }

/-- The run ends as a report says. It has a result if there are no errors, fails if there are, and
hands on that very report in either case. -/
def EndsAs (run : Invocation) (user : UserConfig) (report : Report) : Prop :=
  ((∃ settings, run.compile user = .ok ⟨settings, report⟩) ↔ report.hasErrors = false) ∧
    (report.hasErrors = true → run.compile user = .error (.configValidation report))

theorem WellKeyed.under (keyed : run.WellKeyed user) (plain : user.IsPlain) (positional : List String)
    (mode : BuildMode) : (run.under positional mode).WellKeyed user where
  flags := keyed.flags
  user := plain.evaluate_eq run.context (run.under positional mode).context ▸ keyed.user

/-- A check reads of a run its flags, its plugins and the path of its configuration file. -/
theorem check_under (run : Invocation) (plain : user.IsPlain) (positional : List String) (mode : BuildMode) :
    (run.under positional mode).check user = run.check user := by
  unfold check
  rw [plain.evaluate_eq (run.under positional mode).context run.context]
  rfl

/-- Past a check without errors nothing fails: both later readings of the type of project succeed. -/
theorem endsAs_check (keyed : run.WellKeyed user) : run.EndsAs user (run.check user).report := by
  refine ⟨⟨?_, fun clean => ?_⟩, compile_of_errors⟩
  · rintro ⟨settings, compiles⟩
    exact clean_of_compile_eq_ok compiles
  · obtain ⟨_, settings, _, compiles, _⟩ := compile_of_clean keyed clean
    exact ⟨settings, compiles⟩

theorem EndsAs.failure_eq {report : Report} (ends : run.EndsAs user report) {failure : Failure}
    (fails : run.compile user = .error failure) : failure = .configValidation report := by
  cases errors : report.hasErrors with
  | false =>
    obtain ⟨settings, compiles⟩ := ends.1.mpr errors
    rw [compiles] at fails
    cases fails
  | true =>
    rw [ends.2 errors] at fails
    cases fails
    rfl

end Invocation

/-- The check of a configuration decides how every run with it ends. A run has a result exactly if its
check finds no error, and its only failure is the report of that check. For a configuration that is no
function of the run, the check is the same under every command and in every mode. -/
theorem check_decides_runs {run : Invocation} {user : UserConfig} (keyed : run.WellKeyed user) :
    run.EndsAs user (run.check user).report ∧
      (∀ failure, run.compile user = .error failure → failure = .configValidation (run.check user).report) ∧
      (user.IsPlain → ∀ positional mode,
        (run.under positional mode).check user = run.check user ∧
          (run.under positional mode).EndsAs user (run.check user).report) := by
  refine ⟨Invocation.endsAs_check keyed, fun _ => (Invocation.endsAs_check keyed).failure_eq, ?_⟩
  intro plain positional mode
  have same := run.check_under plain positional mode
  exact ⟨same, same ▸ Invocation.endsAs_check (keyed.under plain positional mode)⟩

theorem check_decides_runs_type :
    let run : Invocation :=
      ⟨⟨["build"], [("type", .null), ("browsers", .string "Chrome")]⟩, .production, .empty, some "sprout.toml"⟩
    let accepted : UserConfig := .tree (.map [("type", .string "react-app")])
    let rejected : UserConfig := .tree (.map [("type", .string "react-ap")])
    run.WellKeyed accepted ∧ run.WellKeyed rejected ∧
      (∃ settings, (run.under ["test"] .test).compile accepted = .ok ⟨settings, (run.check accepted).report⟩) ∧
      (run.under ["test"] .test).compile rejected = .error (.configValidation (run.check rejected).report) ∧
      (run.check rejected).report.errors.map Problem.path = [Path.ofKeys ["type"]] := by
  intro run accepted rejected
  have keyed : run.WellKeyed accepted := .of_flags (by decide) (by decide)
  have keyedRejected : run.WellKeyed rejected := .of_flags (by decide) (by decide)
  obtain ⟨_, _, decides⟩ := check_decides_runs keyed
  obtain ⟨_, _, decidesRejected⟩ := check_decides_runs keyedRejected
  refine ⟨keyed, keyedRejected, (decides trivial ["test"] .test).2.1.mpr ?_,
    (decidesRejected trivial ["test"] .test).2.2 ?_, ?_⟩
  · decide +kernel
  · decide +kernel
  · decide +kernel

end BuildConfig
