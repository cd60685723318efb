import BuildConfig.Proofs.Canonical.Spellings
import BuildConfig.Proofs.Compile.KeyOrder
import BuildConfig.Proofs.Schema.Diagnostics

namespace BuildConfig

open Value (Alike)

namespace Invocation

variable {run : Invocation} {user other : UserConfig}

/-- A check deprecates what is deprecated on the way to canonical form, in the user's part and then in
the overrides. -/
theorem check_deprecations (run : Invocation) (user : UserConfig) :
    (run.check user).report.deprecations =
      deprecationNotices (canonicalize (user.evaluate run.context)).2 ++
        deprecationNotices (canonicalize (commandLineOverrides run.args)).2 := by
  simp only [check, Report.validate, Report.check, Report.addAll_deprecations, Schema.deprecationNotices_findings,
    Report.ofSource, List.nil_append, List.append_nil]

/-- A check reads of a tree its canonical form, and what is said on the way there. -/
theorem check_tree_of_canonicalize {config newer : Value} (same : canonicalize config = canonicalize newer) :
    run.check (.tree config) = run.check (.tree newer) := by
  simp only [check, UserConfig.evaluate, same]

theorem compile_of_check (same : run.check user = run.check other) : run.compile user = run.compile other := by
  simp only [compile, same]

/-- Both runs fail with the reports of their checks, or both have a result, and the results differ in
the order of keys at most. -/
def EndAlike (run : Invocation) (user other : UserConfig) : Prop :=
  (run.compile user = .error (.configValidation (run.check user).report) ∧
    run.compile other = .error (.configValidation (run.check other).report)) ∨
  ∃ settings others, run.compile user = .ok ⟨settings, (run.check user).report⟩ ∧
    run.compile other = .ok ⟨others, (run.check other).report⟩ ∧ settings.toValue.same others.toValue = true

theorem endAlike_of_checked (keyed : run.WellKeyed user) (otherKeyed : run.WellKeyed other)
    (checked : Alike (run.check user).user (run.check other).user) : run.EndAlike user other := by
  have together := run.hasErrors_of_checked checked
  cases failing : (run.check user).report.hasErrors with
  | true => exact Or.inl ⟨compile_of_errors failing, compile_of_errors (together ▸ failing)⟩
  | false =>
    obtain ⟨type, settings, declared, compiles, lookups⟩ := compile_of_clean keyed failing
    obtain ⟨otherType, others, otherDeclared, otherCompiles, otherLookups⟩ :=
      compile_of_clean otherKeyed (together ▸ failing)
    rw [run.declaredType_of_checked checked, otherDeclared] at declared
    cases Except.ok.inj declared
    have trees := run.alike_tree_of_checked checked keyed.flags type
    exact Or.inr ⟨settings, others, compiles, otherCompiles, (alike_toValue trees lookups otherLookups).same⟩

end Invocation

/-- Older spellings of a configuration compile to what their newer ones do. A string or an array that
stands for a map can be replaced by that map, and the check and the result are the same. A key with a
new name can be renamed: both runs fail or both have a result, the results differ in the order of keys
at most, and the one deprecation less is that of the old name. -/
theorem older_spellings_compile_alike (run : Invocation) (config : Value) :
    (∀ path short whole, StandsFor path short whole → config.getPath? path = some short →
      run.check (.tree (config.insertPath path whole)) = run.check (.tree config) ∧
        run.compile (.tree (config.insertPath path whole)) = run.compile (.tree config)) ∧
    ∀ table old new entries, NewName table old new → run.WellKeyed (.tree config) →
      config.get? table = some (.map entries) → old ∈ Entries.keys entries → new ∉ Entries.keys entries →
      let newer := config.insertPath [table] (.map (Entries.rename entries old new))
      run.EndAlike (.tree config) (.tree newer) ∧
        OneMore (Path.ofKeys [table, old]) (run.check (.tree config)).report.deprecations
          (run.check (.tree newer)).report.deprecations := by
  refine ⟨fun path short whole stands atPath => ?_, fun table old new entries renamed keyed atTable held missing => ?_⟩
  · have checks := run.check_tree_of_canonicalize (stands.canonicalize_eq atPath)
    exact ⟨checks, run.compile_of_check checks⟩
  · intro newer
    obtain ⟨trees, more⟩ := canonicalize_renamed renamed keyed.user atTable held missing
    have newerKeyed : run.WellKeyed (.tree newer) := ⟨keyed.flags, keyed.user.renamed atTable held missing⟩
    refine ⟨Invocation.endAlike_of_checked keyed newerKeyed trees, ?_⟩
    rw [Invocation.check_deprecations, Invocation.check_deprecations]
    exact more.append_right _

/-- A library and its old minifier options, in the company of the other older spellings. -/
theorem older_spellings_compile_alike_uglify :
    let run : Invocation := ⟨⟨["build"], [("port", .string "8080")]⟩, .production, .empty, none⟩
    let options : Entries Value := [("uglify", .map [("mangle", .bool false)]), ("copy", .array [.string "icons"])]
    let config : Value := .map
      [("type", .string "web-module"), ("webpack", .map options), ("npm", .map [("umd", .string "Widget")]),
        ("karma", .map [("testDirs", .string "spec")])]
    let spelledOut := config.insertPath ["npm", "umd"] (.map [("global", .string "Widget")])
    let newer := config.insertPath ["webpack"] (.map (Entries.rename options "uglify" "terser"))
    run.WellKeyed (.tree config) ∧ config.getPath? ["npm", "umd"] = some (.string "Widget") ∧
      run.check (.tree spelledOut) = run.check (.tree config) ∧
      run.compile (.tree spelledOut) = run.compile (.tree config) ∧
      (∃ settings others report other, run.compile (.tree config) = .ok ⟨settings, report⟩ ∧
        run.compile (.tree newer) = .ok ⟨others, other⟩ ∧ settings.toValue.same others.toValue = true) ∧
      OneMore (Path.ofKeys ["webpack", "uglify"]) (run.check (.tree config)).report.deprecations
        (run.check (.tree newer)).report.deprecations := by
  intro run options config spelledOut newer
  have keyed : run.WellKeyed (.tree config) := .of_flags (by decide) (by decide)
  have clean : (run.check (.tree config)).report.hasErrors = false := by
    simp only [run, config, options]
    decide +kernel
  have atUmd : config.getPath? ["npm", "umd"] = some (.string "Widget") := rfl
  obtain ⟨standing, moving⟩ := older_spellings_compile_alike run config
  obtain ⟨checks, compiles⟩ := standing _ _ _ (.umd "Widget") atUmd
  obtain ⟨ends, more⟩ := moving _ _ _ options .terser keyed rfl (by decide) (by decide)
  refine ⟨keyed, atUmd, checks, compiles, ?_, more⟩
  rcases ends with ⟨fails, _⟩ | ⟨settings, others, compilesOld, compilesNew, same⟩
  · obtain ⟨_, _, _, compilesOld, _⟩ := Invocation.compile_of_clean keyed clean
    rw [fails] at compilesOld
    cases compilesOld
  · exact ⟨settings, others, _, _, compilesOld, compilesNew, same⟩

end BuildConfig
