import BuildConfig.Proofs.Compile.Runs

namespace BuildConfig

open Value (notNull?)

/-- A tree with the look-ups of a conforming one, nulls apart, conforms as well. -/
theorem Layer.conforms_of_lookups {plugins : Preprocessors} {tree : Value} {entries : Entries Value}
    (layer : Layer plugins tree)
    (lookups : ∀ key, Entries.get? entries key = notNull? (tree.get? key)) :
    (Schema.userConfig plugins).Conforms (.map entries) := by
  have conforms := layer.conforms
  obtain ⟨original, rfl⟩ := Value.isMap_iff.mp (Schema.isMap_of_record conforms)
  rw [Schema.userConfig, Schema.record_node,
    Schema.conforms_map_iff (Alternatives.noExceptions_scalar.map _)] at conforms
  rw [Schema.userConfig, Schema.record_node, Schema.conforms_map_iff (Alternatives.noExceptions_scalar.map _)]
  obtain ⟨admitted, known, _, declared, _⟩ := conforms
  have known := known.resolve_left (by simp)
  refine ⟨admitted.map entries, Or.inr fun key held => ?_, Or.inl rfl, ?_, by simp⟩
  · obtain ⟨child, found⟩ := Entries.mem_keys_iff.mp held
    rw [lookups key] at found
    have inTree := (Value.notNull?_eq_some_iff.mp found).1
    exact known key (Entries.mem_keys_iff.mpr ⟨child, inTree⟩)
  · intro name field isDeclared child found notNull
    rw [lookups name] at found
    have inTree := (Value.notNull?_eq_some_iff.mp found).1
    exact declared name field isDeclared child inTree notNull

theorem Invocation.conforms_of_compile {run : Invocation} {user : UserConfig} {compiled : Compiled}
    (keyed : run.WellKeyed user) (compiles : run.compile user = .ok compiled) :
    (Schema.userConfig run.plugins).Conforms compiled.settings.toValue := by
  have clean := clean_of_compile_eq_ok compiles
  obtain ⟨type, settings, _, result, lookups⟩ := compile_of_clean keyed clean
  rw [compiles] at result
  cases result
  exact (complete_tree keyed clean type).toLayer.conforms_of_lookups lookups

/-- What a run compiles passes the check that the user's part and the overrides had to pass. Nothing
checks it again after the merge, so this rests on the merge and on both moves of loader options. -/
theorem compiled_settings_pass_check {run : Invocation} {user : UserConfig} {compiled : Compiled}
    (keyed : run.WellKeyed user) (compiles : run.compile user = .ok compiled) (report : Report) :
    (report.validate (Schema.userConfig run.plugins) compiled.settings.toValue).errors = report.errors := by
  have conforms := Invocation.conforms_of_compile keyed compiles
  rw [Report.validate, Report.check, Report.addAll_errors_eq_iff]
  exact (Schema.problems_findings_iff (Schema.unmixed_userConfig run.plugins) .root _).mpr conforms

/-- A style preprocessor, loader options to be moved in both places, a shorthand, a flag and a null. -/
theorem compiled_settings_pass_check_sass :
    let run : Invocation :=
      ⟨⟨["build"], [("browsers", .string "Chrome, Firefox"), ("port", .string "8080")]⟩, .production,
        Preprocessors.empty.register "sass" .empty, none⟩
    let user : UserConfig := .tree (.map
      [("type", .string "preact-app"), ("npm", .map [("umd", .string "App"), ("cjs", .null)]),
        ("webpack", .map [("rules", .map [("png", .map [("limit", .ofInt 10), ("test", .pattern "png")])]),
          ("styles", .map [("sass", .array [.map [("sass", .map [("indented", .bool true)])]])])])])
    run.WellKeyed user ∧ ∃ compiled, run.compile user = .ok compiled ∧
      ((Report.ofSource none).validate (Schema.userConfig run.plugins) compiled.settings.toValue).errors = [] := by
  intro run user
  have keyed : run.WellKeyed user := .of_flags (by decide) (by decide)
  have clean : (run.check user).report.hasErrors = false := by
    simp only [run, user]
    decide +kernel
  obtain ⟨_, settings, _, compiles, _⟩ := Invocation.compile_of_clean keyed clean
  exact ⟨keyed, _, compiles, compiled_settings_pass_check keyed compiles (Report.ofSource none)⟩

end BuildConfig
