import BuildConfig.Proofs.Compile.Runs
import BuildConfig.Proofs.Schema.KeyOrder

namespace BuildConfig

open Value (Alike notNull?)

theorem typeNamed_of_alike {found other : Option Value} (rel : Option.Rel Alike found other) :
    typeNamed found = typeNamed other := by
  have byText (value : Value) : typeNamed (some value) =
      value.asString?.elim (.ok none) fun name => typeNamed (some (.string name)) := by
    cases value <;> rfl
  cases rel with
  | none => rfl
  | some alike => rw [byText, byText, alike.asString?]

/-- Settings with look-ups of alike trees are alike. -/
theorem alike_toValue {settings others : Settings} {first second : Value} (alike : Alike first second)
    (lookups : ∀ key, settings.toValue.get? key = notNull? (first.get? key))
    (otherLookups : ∀ key, others.toValue.get? key = notNull? (second.get? key)) :
    Alike settings.toValue others.toValue := by
  refine Value.alike_map_iff.mpr ⟨settings.distinct_toValue, others.distinct_toValue, fun key => ?_⟩
  have rel : Option.Rel Alike (notNull? (first.get? key)) (notNull? (second.get? key)) :=
    Value.rel_notNull? (fun _ _ => Alike.null_iff) (alike.get? key)
  rwa [← lookups key, ← otherLookups key] at rel

namespace Invocation

variable (run : Invocation) {user other : UserConfig} {u w : Value}

theorem alike_checked (alike : Alike u w) : Alike (run.check (.tree u)).user (run.check (.tree w)).user :=
  alike_canonicalize alike

/-- The overrides come from flags alone. -/
theorem overrides_of_flags (user other : UserConfig) : (run.check user).overrides = (run.check other).overrides :=
  rfl

theorem errors_perm_of_checked (checked : Alike (run.check user).user (run.check other).user) :
    ((run.check user).report.errors.map Problem.path).Perm ((run.check other).report.errors.map Problem.path) := by
  rw [check_errors, check_errors, List.map_append, List.map_append]
  have inUser := Schema.errorPaths_perm (Schema.plain_userConfig run.plugins) .root checked
  exact inUser.append (.refl _)

theorem errors_perm (alike : Alike u w) :
    ((run.check (.tree u)).report.errors.map Problem.path).Perm
      ((run.check (.tree w)).report.errors.map Problem.path) :=
  run.errors_perm_of_checked (run.alike_checked alike)

theorem hasErrors_of_checked (checked : Alike (run.check user).user (run.check other).user) :
    (run.check user).report.hasErrors = (run.check other).report.hasErrors := by
  have count := (run.errors_perm_of_checked checked).length_eq
  rw [List.length_map, List.length_map] at count
  have together : (run.check user).report.errors.isEmpty = (run.check other).report.errors.isEmpty := by
    rw [Bool.eq_iff_iff, List.isEmpty_iff_length_eq_zero, List.isEmpty_iff_length_eq_zero, count]
  rw [Report.hasErrors, Report.hasErrors, together]

theorem hasErrors_of_alike (alike : Alike u w) :
    (run.check (.tree u)).report.hasErrors = (run.check (.tree w)).report.hasErrors :=
  run.hasErrors_of_checked (run.alike_checked alike)

theorem declaredType_of_checked (checked : Alike (run.check user).user (run.check other).user) :
    declaredType (run.check user) = declaredType (run.check other) := by
  rw [declaredType_eq, declaredType_eq, run.overrides_of_flags user other]
  cases (run.check other).overrides.get? "type" with
  | none => exact typeNamed_of_alike (checked.get? "type")
  | some given => rfl

theorem declaredType_of_alike (alike : Alike u w) :
    declaredType (run.check (.tree u)) = declaredType (run.check (.tree w)) :=
  run.declaredType_of_checked (run.alike_checked alike)

theorem alike_tree_of_checked (checked : Alike (run.check user).user (run.check other).user)
    (flags : ∀ name value, run.args.flag? name = some value → value.DistinctKeys) (type : Option ProjectType) :
    Alike (run.tree user type) (run.tree other type) := by
  have overrides := (distinctKeys_commandLineOverrides flags).canonicalize
  have defaults := distinctKeys_projectDefaults type run.mode run.args
  have lowest := (complete_baseline run.plugins).distinct
  rw [tree_eq, tree_eq]
  refine alike_hoistConfig run.plugins ?_
  simp only [mergeLayers, List.foldl_cons, List.foldl_nil, Value.mergeWith]
  have start := Value.alike_empty.mergeAt layerStrategy [] (Value.alike_self lowest)
  have upToDefaults := start.mergeAt layerStrategy [] (Value.alike_self defaults)
  have upToUser := upToDefaults.mergeAt layerStrategy [] checked
  exact upToUser.mergeAt layerStrategy [] (Value.alike_self overrides)

theorem alike_tree (alike : Alike u w) (flags : ∀ name value, run.args.flag? name = some value → value.DistinctKeys)
    (type : Option ProjectType) : Alike (run.tree (.tree u) type) (run.tree (.tree w) type) :=
  run.alike_tree_of_checked (run.alike_checked alike) flags type

end Invocation

/-- Two user configurations that differ in the order of keys alone both fail, with errors at the same
places, or both compile, to settings that differ in the order of keys at most. -/
theorem compile_ignores_key_order {run : Invocation} {u w : Value} (keyed : run.WellKeyed (.tree u))
    (otherKeyed : run.WellKeyed (.tree w)) (same : u.same w = true) :
    (∃ report other, run.compile (.tree u) = .error (.configValidation report) ∧
      run.compile (.tree w) = .error (.configValidation other) ∧
      (report.errors.map Problem.path).Perm (other.errors.map Problem.path)) ∨
    ∃ compiled other, run.compile (.tree u) = .ok compiled ∧ run.compile (.tree w) = .ok other ∧
      compiled.settings.toValue.same other.settings.toValue = true := by
  have alike : Alike u w := Value.alike_of_same keyed.user otherKeyed.user same
  have together := run.hasErrors_of_alike alike
  cases failing : (run.check (.tree u)).report.hasErrors with
  | true =>
    refine Or.inl ⟨_, _, Invocation.compile_of_errors failing, ?_, run.errors_perm alike⟩
    exact Invocation.compile_of_errors (together ▸ failing)
  | false =>
    obtain ⟨type, settings, declared, compiles, lookups⟩ := Invocation.compile_of_clean keyed failing
    obtain ⟨otherType, others, otherDeclared, otherCompiles, otherLookups⟩ :=
      Invocation.compile_of_clean otherKeyed (together ▸ failing)
    rw [run.declaredType_of_alike alike, otherDeclared] at declared
    cases Except.ok.inj declared
    have trees := run.alike_tree alike keyed.flags type
    exact Or.inr ⟨_, _, compiles, otherCompiles, (alike_toValue trees lookups otherLookups).same⟩

/-- Keys in two orders at every depth, where loader options are moved and arrays appended as well. -/
theorem compile_ignores_key_order_sass :
    let run : Invocation :=
      ⟨⟨["build"], [("port", .string "8080")]⟩, .production, Preprocessors.empty.register "sass" .empty, none⟩
    let u : Value := .map
      [("type", .string "react-app"), ("babel", .map [("presets", .array [.string "flow"])]),
        ("webpack", .map [("rules", .map [("png", .map [("limit", .ofInt 1), ("name", .string "x")])]),
          ("styles", .map [("sass", .array [.map [("css", .empty), ("sass", .map [("indented", .bool true)])]])])])]
    let w : Value := .map
      [("webpack", .map
        [("styles", .map [("sass", .array [.map [("sass", .map [("indented", .bool true)]), ("css", .empty)]])]),
          ("rules", .map [("png", .map [("name", .string "x"), ("limit", .ofInt 1)])])]),
        ("babel", .map [("presets", .array [.string "flow"])]), ("type", .string "react-app")]
    run.WellKeyed (.tree u) ∧ run.WellKeyed (.tree w) ∧ u.same w = true ∧
      ∃ compiled other, run.compile (.tree u) = .ok compiled ∧ run.compile (.tree w) = .ok other ∧
        compiled.settings.toValue.same other.settings.toValue = true := by
  intro run u w
  have keyed : run.WellKeyed (.tree u) := .of_flags (by decide) (by decide)
  have otherKeyed : run.WellKeyed (.tree w) := .of_flags (by decide) (by decide)
  have same : u.same w = true := by
    simp only [u, w]
    decide +kernel
  have clean : (run.check (.tree u)).report.hasErrors = false := by
    simp only [run, u]
    decide +kernel
  refine ⟨keyed, otherKeyed, same, ?_⟩
  rcases compile_ignores_key_order keyed otherKeyed same with ⟨report, _, fails, _⟩ | both
  · obtain ⟨_, _, _, compiles, _⟩ := Invocation.compile_of_clean keyed clean
    rw [fails] at compiles
    cases compiles
  · exact both

end BuildConfig
