import BuildConfig.Proofs.Canonical.FixedPoints
import BuildConfig.Proofs.Schema.DeclaredPaths
import BuildConfig.Proofs.Schema.NullEntries

namespace BuildConfig

variable {plugins : Preprocessors} {config : Value}

/-- No old key is declared in the table that it was a key of. -/
theorem getPath?_source_of_conforms (conforms : Schema.Conforms (Schema.userConfig plugins) config) {rename : Rename}
    (listed : rename ∈ renames) : config.getPath? rename.source = none := by
  have webpack : (Schema.userConfig plugins).Declares ["webpack"] (Schema.webpack plugins) :=
    Schema.declares_record rfl .here
  have karma : (Schema.userConfig plugins).Declares ["karma"] Schema.karma := Schema.declares_record rfl .here
  simp only [renames, List.mem_cons, List.not_mem_nil, or_false] at listed
  rcases listed with rfl | rfl
  · exact webpack.getPath?_undeclared conforms (by simp)
  · exact karma.getPath?_undeclared conforms (by simp)

/-- Where a shorthand can stand, the schema asks for a map. -/
theorem declares_shorthand (plugins : Preprocessors) {shorthand : Shorthand} (listed : shorthand ∈ shorthands) :
    ∃ node exceptions, (Schema.userConfig plugins).Declares shorthand.path node ∧
      node.accepted = ⟨[.object], [], exceptions, none⟩ ∧ ∀ exception ∈ exceptions, exception = Value.bool false := by
  simp only [shorthands, List.mem_cons, List.not_mem_nil, or_false] at listed
  rcases listed with rfl | rfl | rfl
  · have inNpm : Schema.npm.Declares ["umd"] Schema.umd := Schema.declares_record rfl .here
    exact ⟨Schema.umd, [.bool false], Schema.declares_record rfl inNpm, rfl, by simp⟩
  · have inWebpack : (Schema.webpack plugins).Declares ["autoprefixer"] (Schema.ofKind .object).orFalse :=
      Schema.declares_record rfl .here
    exact ⟨_, [.bool false], Schema.declares_record rfl inWebpack, rfl, by simp⟩
  · have inWebpack : (Schema.webpack plugins).Declares ["copy"] Schema.copy := Schema.declares_record rfl .here
    exact ⟨Schema.copy, [], Schema.declares_record rfl inWebpack, rfl, by simp⟩

/-- The schema and the older spellings know nothing of each other: what it describes is spelled the newer way. -/
theorem isCanonical_of_conforms (conforms : Schema.Conforms (Schema.userConfig plugins) config) :
    IsCanonical config where
  moved _ listed := getPath?_source_of_conforms conforms listed
  writtenOut := by
    intro shorthand listed value held
    obtain ⟨node, exceptions, declares, accepted, onlyFalse⟩ := declares_shorthand plugins listed
    by_cases null : value = .null
    · subst value
      exact accepts_eq_false listed rfl rfl
    · have inside := declares.conforms_getPath? conforms held null
      rcases inside.isMap_or_eq_false accepted onlyFalse with isMap | rfl
      · obtain ⟨entries, rfl⟩ := Value.isMap_iff.mp isMap
        exact accepts_eq_false listed rfl rfl
      · exact accepts_eq_false listed rfl rfl

/-- A configuration in which validation finds no error as it stands is in canonical form. Whatever plugins are
installed, nothing in it is rewritten, and nothing deprecated. -/
theorem accepted_configuration_is_canonical {report : Report}
    (accepted : (report.validate (Schema.userConfig plugins) config).errors = report.errors) :
    (canonicalize config).1 = config ∧ deprecationNotices (canonicalize config).2 = [] := by
  have canonical := isCanonical_of_conforms (validate_adds_no_error_iff.mp accepted)
  refine ⟨canonical.unchanged, deprecationNotices_eq_nil_iff.mpr fun notice listed => ?_⟩
  rw [canonical.only_hints, List.mem_map] at listed
  obtain ⟨_, _, same⟩ := listed
  cases same

/-- Disabled shorthands, nulls, and rules of an installed preprocessor. -/
theorem accepted_configuration_is_canonical_disabled :
    let plugins := Preprocessors.empty.register "sass" .empty
    let report := (Report.ofSource none).addError .root .null "earlier"
    let config : Value := .map
      [("npm", .map [("umd", .bool false), ("cjs", .null)]), ("karma", .null),
        ("webpack", .map [("autoprefixer", .bool false), ("copy", .map [("patterns", .array [.string "icons"])]),
          ("extra", .map [("resolve", .map [("alias", .empty)])]), ("terser", .bool true),
          ("styles", .map [("sass", .array [.map [("include", .pattern "src"), ("sass", .empty)]])])])]
    (report.validate (Schema.userConfig plugins) config).errors = report.errors ∧
      (canonicalize config).1 = config ∧ deprecationNotices (canonicalize config).2 = [] := by
  intro plugins report config
  have accepted : (report.validate (Schema.userConfig plugins) config).errors = report.errors := by
    rw [Report.validate, Report.check, Report.addAll_errors_eq_iff]
    decide +kernel
  exact ⟨accepted, accepted_configuration_is_canonical accepted⟩

end BuildConfig
