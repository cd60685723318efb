import BuildConfig.Proofs.Schema.Diagnostics
import BuildConfig.Proofs.Wording.Suggestions

namespace BuildConfig

/-- A string that is rejected is none of the choices, and the choice that was meant is the one suggested among them. -/
theorem Alternatives.rejected_string {accepted : Alternatives} {text message : String} {meant : Option String}
    (rejected : accepted.verdict (.string text) = .rejected message meant) :
    text ∉ accepted.choices ∧ meant = suggestSimilar text accepted.choices := by
  unfold verdict at rejected
  split at rejected
  · cases rejected
  split at rejected
  · rename_i plain
    rcases Bool.or_eq_true_iff.mp plain with noChoices | strings
    · rw [List.isEmpty_iff.mp noChoices]
      unfold kindVerdict at rejected
      split at rejected <;> cases rejected
      exact ⟨List.not_mem_nil, rfl⟩
    · -- a string is of the kind that is asked for
      have matched : accepted.matchesKind (.string text) = true :=
        matchesKind_iff.mpr ⟨.string, List.contains_iff_mem.mp strings, rfl⟩
      rw [kindVerdict, matched, Bool.or_true, if_pos rfl] at rejected
      cases rejected
  · simp only at rejected
    split at rejected <;> cases rejected
    rename_i notChosen
    exact ⟨mt List.contains_iff_mem.mpr notChosen, rfl⟩

namespace Schema

/-- The notice that names a choice in place of what stands at a path. -/
def choiceHint (place : Path) (choice : String) : Notice :=
  ⟨place, ["Did you mean '" ++ choice ++ "'?"]⟩

theorem rejection_eq (place : Path) (value : Value) (message : String) (meant : Option String) :
    rejection place value message meant =
      .problem ⟨place, value, message⟩ :: meant.toList.map fun choice => .hint (choiceHint place choice) := by
  cases meant <;> rfl

/-- A string is either passed over or rejected, with the choice suggested among those of the node. -/
theorem ownFindings_string (node : Schema) (place : Path) (text : String) :
    node.ownFindings place (.string text) = [] ∨
      ∃ message, text ∉ node.accepted.choices ∧
        node.ownFindings place (.string text) =
          rejection place (.string text) message (suggestSimilar text node.accepted.choices) := by
  obtain ⟨accepted, fields, unknownKeys, requireAny, items, values, singleEntry⟩ := node
  simp only [ownFindings]
  cases verdict : accepted.verdict (.string text) with
  | passes => exact Or.inl rfl
  | rejected message meant =>
    obtain ⟨notChosen, rfl⟩ := Alternatives.rejected_string verdict
    exact Or.inr ⟨message, notChosen, rfl⟩
  | lookInside => exact Or.inl rfl

/-- A node adds a hint to its error on a string where a choice is near enough to be suggested, and nowhere else. -/
theorem hint_mem_ownFindings_iff {node : Schema} {place : Path} {value : Value} {hint : Notice} :
    .hint hint ∈ node.ownFindings place value ↔
      ∃ text message choice, value = .string text ∧
        .problem ⟨place, .string text, message⟩ ∈ node.ownFindings place value ∧ text ∉ node.accepted.choices ∧
        suggestSimilar text node.accepted.choices = some choice ∧ hint = choiceHint place choice := by
  constructor
  · intro listed
    have remarks := remarks_ownFindings node place value
    obtain ⟨text, _, beside⟩ := remarks.beside_hint listed
    obtain rfl := remarks.value_eq beside
    rcases ownFindings_string node place text with none | ⟨message, notChosen, same⟩
    · rw [none] at listed
      cases listed
    have error : .problem ⟨place, .string text, message⟩ ∈ node.ownFindings place (.string text) := by
      rw [same, rejection_eq]
      exact List.mem_cons_self ..
    rw [same, rejection_eq] at listed
    rcases List.mem_cons.mp listed with isError | isHint
    · cases isError
    · obtain ⟨choice, suggested, hint⟩ := List.mem_map.mp isHint
      cases hint
      exact ⟨text, message, choice, rfl, error, notChosen, Option.mem_toList.mp suggested, rfl⟩
  · rintro ⟨text, message, choice, rfl, error, notChosen, suggested, rfl⟩
    rcases ownFindings_string node place text with none | ⟨_, _, same⟩
    · rw [none] at error
      cases error
    · rw [same, rejection_eq, suggested]
      exact List.mem_cons_of_mem _ (List.mem_cons_self ..)

theorem mem_ownFindings_iff {schema node : Schema} {value child : Value} {path place : Path} {finding : Finding}
    (same : findingsAt place (schema.findings path value) = node.ownFindings place child) :
    finding ∈ node.ownFindings place child ↔ finding ∈ schema.findings path value ∧ finding.path = place := by
  rw [← same, mem_findingsAt_iff]

/-- The hints of a check are those of the nodes that it comes to. -/
theorem hint_mem_findings_iff {schema : Schema} {value : Value} (keyed : schema.Keyed) (distinct : value.DistinctKeys)
    {path : Path} {hint : Notice} :
    .hint hint ∈ schema.findings path value ↔
      ∃ steps node text message choice, schema.walk? steps = some node ∧ value.walk? steps = some (.string text) ∧
        .problem ⟨path.extend steps, .string text, message⟩ ∈ schema.findings path value ∧
        text ∉ node.accepted.choices ∧ suggestSimilar text node.accepted.choices = some choice ∧
        hint = choiceHint (path.extend steps) choice := by
  constructor
  · intro listed
    obtain ⟨steps, at_steps⟩ := path_of_mem_findings listed
    obtain ⟨node, child, toNode, toChild, same⟩ := findingsAt_of_mem_findings keyed distinct listed at_steps
    obtain ⟨text, message, choice, rfl, error, notChosen, suggested, rfl⟩ :=
      hint_mem_ownFindings_iff.mp ((mem_ownFindings_iff same).mpr ⟨listed, at_steps⟩)
    exact ⟨steps, node, text, message, choice, toNode, toChild, ((mem_ownFindings_iff same).mp error).1, notChosen,
      suggested, rfl⟩
  · rintro ⟨steps, node, text, message, choice, toNode, toText, error, notChosen, suggested, rfl⟩
    obtain ⟨other, child, toOther, toChild, same⟩ := findingsAt_of_mem_findings keyed distinct error rfl
    cases toNode.symm.trans toOther
    cases toText.symm.trans toChild
    have hinted := hint_mem_ownFindings_iff.mpr
      ⟨text, message, choice, rfl, (mem_ownFindings_iff same).mpr ⟨error, rfl⟩, notChosen, suggested, rfl⟩
    exact ((mem_ownFindings_iff same).mp hinted).1

/-- Nothing is suggested exactly when every candidate is more than two edits away; else it is the earliest of those at
the least distance. The hints of a check are those suggestions: one stands beside the error on a string that is none of
the choices of its node, and it names the earliest of the nearest choices, one or two edits away. -/
theorem hints_name_nearest_choices :
    (∀ input candidates,
      (suggestSimilar input candidates = none ↔ ∀ candidate ∈ candidates, 2 < editDistance input candidate) ∧
      ∀ candidate, suggestSimilar input candidates = some candidate ↔
        IsNearest input candidates candidate ∧ editDistance input candidate ≤ 2) ∧
    ∀ (schema : Schema) (value : Value) (path : Path) (report : Report), schema.Keyed → value.DistinctKeys →
      ∃ errors hints,
        report.check schema path value =
          { report with errors := report.errors ++ errors, hints := report.hints ++ hints } ∧
        ∀ hint, hint ∈ hints ↔
          ∃ steps node text message choice, schema.walk? steps = some node ∧
            value.walk? steps = some (.string text) ∧ ⟨path.extend steps, .string text, message⟩ ∈ errors ∧
            text ∉ node.accepted.choices ∧ choice ∈ node.accepted.choices ∧
            IsNearest text node.accepted.choices choice ∧
            1 ≤ editDistance text choice ∧ editDistance text choice ≤ 2 ∧
            hint = ⟨path.extend steps, ["Did you mean '" ++ choice ++ "'?"]⟩ := by
  refine ⟨fun input candidates => ⟨suggestSimilar_eq_none_iff, fun candidate => suggestSimilar_eq_some_iff⟩, ?_⟩
  intro schema value path report keyed distinct
  refine ⟨problems (schema.findings path value), hintNotices (schema.findings path value), ?_, fun hint => ?_⟩
  · rw [Report.check, Report.addAll_eq, deprecationNotices_findings, List.append_nil]
  rw [mem_hintNotices_iff, hint_mem_findings_iff keyed distinct]
  constructor
  · rintro ⟨steps, node, text, message, choice, toNode, toText, error, notChosen, suggested, rfl⟩
    obtain ⟨nearest, near⟩ := suggestSimilar_eq_some_iff.mp suggested
    have differs : editDistance text choice ≠ 0 := fun zero =>
      notChosen (editDistance_eq_zero_iff.mp zero ▸ nearest.mem)
    exact ⟨steps, node, text, message, choice, toNode, toText, mem_problems_iff.mpr error, notChosen, nearest.mem,
      nearest, Nat.one_le_iff_ne_zero.mpr differs, near, rfl⟩
  · rintro ⟨steps, node, text, message, choice, toNode, toText, error, notChosen, _, nearest, _, near, rfl⟩
    exact ⟨steps, node, text, message, choice, toNode, toText, mem_problems_iff.mp error, notChosen,
      suggestSimilar_eq_some_iff.mpr ⟨nearest, near⟩, rfl⟩

/-- Two choices are one edit away, and the first of them is named. -/
theorem hints_name_nearest_choices_warm :
    let choices := ["cold", "warm", "worm", "warm"]
    let schema := Schema.record.withFields [("mode", ofChoices choices)]
    let value : Value := .map [("mode", .string "wrm")]
    let place := Path.root.key "mode"
    let error : Problem := ⟨place, .string "wrm", "Must be one of: 'cold', 'warm', 'worm', 'warm'"⟩
    schema.Keyed ∧ value.DistinctKeys ∧ ∃ hints,
      (Report.ofSource none).check schema .root value = ⟨none, false, [error], [], hints⟩ ∧
      IsNearest "wrm" choices "warm" ∧ ⟨place, ["Did you mean 'warm'?"]⟩ ∈ hints := by
  intro choices schema value place error
  have keyed : schema.Keyed :=
    composable_keyed.withFields composable_keyed.record (by simpa using composable_keyed.ofChoices choices)
  have distinct : value.DistinctKeys := by decide
  have nearest : IsNearest "wrm" choices "warm" :=
    ⟨["cold"], ["worm", "warm"], rfl, by decide +kernel, by decide +kernel⟩
  have wrong : ((Report.ofSource none).check schema .root value).errors = [error] := rfl
  obtain ⟨errors, hints, same, named⟩ :=
    hints_name_nearest_choices.2 schema value .root (Report.ofSource none) keyed distinct
  rw [same] at wrong
  obtain rfl : errors = [error] := wrong
  have hinted := (named ⟨place, ["Did you mean 'warm'?"]⟩).mpr
    ⟨[.key "mode"], ofChoices choices, "wrm", error.message, "warm", rfl, rfl, List.mem_singleton_self _, by decide,
      by decide, nearest, by decide +kernel, by decide +kernel, rfl⟩
  exact ⟨keyed, distinct, hints, same, nearest, hinted⟩

end Schema

end BuildConfig
