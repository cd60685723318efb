import BuildConfig.Proofs.Schema.UserSchema

namespace BuildConfig

/-- A check adds no error to a report exactly when the schema describes the value. Where the check
starts and what the report says already play no part. -/
theorem check_adds_no_error_iff {schema : Schema} (unmixed : schema.Everywhere Alternatives.Unmixed)
    (value : Value) (path : Path) (report : Report) :
    (report.check schema path value).errors = report.errors ↔ schema.Conforms value := by
  rw [Report.check, Report.addAll_errors_eq_iff]
  exact Schema.problems_findings_iff unmixed path value

/-- A configuration with an exception, a plugin definition, an open rule and a style entry of an
installed preprocessor, beside one whose copy options say nothing. -/
theorem check_adds_no_error_iff_styles :
    let schema := Schema.userConfig (Preprocessors.empty.register "sass" .empty)
    let report := (Report.ofSource none).addError .root .null "earlier"
    let accepted : Value := .map
      [("npm", .map [("umd", .bool false), ("cjs", .null)]),
        ("karma", .map [("browsers", .array [.string "Chrome", .map [("launcher:X", .array [])]])]),
        ("webpack", .map [("rules", .map [("png", .map [("limit", .ofInt 10)])]),
          ("styles", .map [("sass", .array [.map [("include", .pattern "src"), ("sass", .empty)]])])])]
    let rejected : Value := .map [("webpack", .map [("copy", .empty)])]
    schema.Everywhere Alternatives.Unmixed ∧ schema.Conforms accepted ∧ ¬schema.Conforms rejected ∧
      (report.check schema (Path.ofKeys ["base"]) accepted).errors = report.errors := by
  intro schema report accepted rejected
  have unmixed := Schema.unmixed_userConfig (Preprocessors.empty.register "sass" .empty)
  have clean : (report.check schema (Path.ofKeys ["base"]) accepted).errors = report.errors := by rfl
  refine ⟨unmixed, (check_adds_no_error_iff unmixed accepted _ report).mp clean, fun conforms => ?_, clean⟩
  have none := (check_adds_no_error_iff unmixed rejected .root report).mpr conforms
  exact absurd (congrArg List.length none) (by decide)

end BuildConfig
