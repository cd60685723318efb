import BuildConfig.Proofs.Schema.Relocation

namespace BuildConfig

/-- A choice is suggested for a string only. -/
theorem Alternatives.isString_of_suggestion {accepted : Alternatives} {value : Value} {message choice : String}
    (verdict : accepted.verdict value = .rejected message (some choice)) : ∃ text, value = .string text := by
  unfold Alternatives.verdict Alternatives.kindVerdict at verdict
  split at verdict
  · cases verdict
  · split at verdict
    · split at verdict <;> cases verdict
    · split at verdict
      · exact ⟨_, rfl⟩
      · split at verdict
        · cases verdict
        · split at verdict <;> cases verdict

namespace Schema

/-- The node is closed, and the map holds a key that it does not declare. -/
def TurnsAway : Schema → Entries Value → Prop
  | .node _ fields unknownKeys _ _ _ _, entries =>
    unknownKeys ≠ .allow ∧ ∃ key ∈ Entries.keys entries, key ∉ Entries.keys fields

/-- The node asks for one of some keys, and the map holds none of them. -/
def Misses : Schema → Entries Value → Prop
  | .node _ _ _ requireAny _ _ _, entries => requireAny ≠ [] ∧ ∀ key ∈ requireAny, key ∉ Entries.keys entries

/-- What a check can say about one value at one place. -/
inductive Remarks (schema : Schema) (place : Path) : Value → List Finding → Prop
  | nothing {value : Value} : Remarks schema place value []
  | wrong {value : Value} (message : String) : Remarks schema place value [.problem ⟨place, value, message⟩]
  | misspelled {text : String} (message advice : String) :
      Remarks schema place (.string text) [.problem ⟨place, .string text, message⟩, .hint ⟨place, [advice]⟩]
  | unknownAndMissing {entries : Entries Value} (unknown missing : String) (turnsAway : schema.TurnsAway entries)
      (misses : schema.Misses entries) :
      Remarks schema place (.map entries)
        [.problem ⟨place, .map entries, unknown⟩, .problem ⟨place, .map entries, missing⟩]

theorem unknownKeyFindings_cases (unknownKeys : UnknownKeys) (declared : List String) (path : Path)
    (entries : Entries Value) :
    unknownKeyFindings unknownKeys declared path entries = [] ∨
      (unknownKeys ≠ .allow ∧ ∃ key ∈ Entries.keys entries, key ∉ declared) ∧
        ∃ message, unknownKeyFindings unknownKeys declared path entries = [.problem ⟨path, .map entries, message⟩] := by
  cases unknownKeys with
  | allow => exact Or.inl rfl
  | reject message =>
    simp only [unknownKeyFindings]
    split
    · exact Or.inl rfl
    · rename_i some
      refine Or.inr ⟨⟨by simp, ?_⟩, _, rfl⟩
      simpa [List.filter_eq_nil_iff] using some

theorem requiredKeyFindings_cases (requireAny : List String) (path : Path) (entries : Entries Value) :
    requiredKeyFindings requireAny path entries = [] ∨
      (requireAny ≠ [] ∧ ∀ key ∈ requireAny, key ∉ Entries.keys entries) ∧
        ∃ message, requiredKeyFindings requireAny path entries = [.problem ⟨path, .map entries, message⟩] := by
  unfold requiredKeyFindings
  split
  · exact Or.inl rfl
  · rename_i missing
    simp only [Bool.or_eq_true, List.isEmpty_iff, List.any_eq_true, Entries.contains_iff_mem, not_or, not_exists,
      not_and] at missing
    exact Or.inr ⟨missing, _, rfl⟩

theorem remarks_rejection (schema : Schema) (place : Path) {accepted : Alternatives} {value : Value} {message : String}
    {meant : Option String} (verdict : accepted.verdict value = .rejected message meant) :
    schema.Remarks place value (rejection place value message meant) := by
  cases meant with
  | none => exact .wrong message
  | some choice =>
    obtain ⟨text, rfl⟩ := Alternatives.isString_of_suggestion verdict
    exact .misspelled message _

theorem remarks_ownFindings (schema : Schema) (place : Path) (value : Value) :
    schema.Remarks place value (schema.ownFindings place value) := by
  cases schema with
  | node accepted fields unknownKeys requireAny items values singleEntry =>
    simp only [ownFindings]
    split
    · exact .nothing
    · exact remarks_rejection _ place ‹_›
    · split
      · unfold singleEntryProblems
        split
        · split
          · exact .nothing
          · exact .wrong _
        · exact .wrong _
      · rename_i entries _
        rcases unknownKeyFindings_cases unknownKeys (Entries.keys fields) place entries with
          known | ⟨turnsAway, unknown, isUnknown⟩ <;>
        rcases requiredKeyFindings_cases requireAny place entries with present | ⟨misses, missing, isMissing⟩
        · rw [known, present]
          exact .nothing
        · rw [known, isMissing]
          exact .wrong missing
        · rw [isUnknown, present]
          exact .wrong unknown
        · rw [isUnknown, isMissing]
          exact .unknownAndMissing unknown missing turnsAway misses
      · exact .nothing

namespace Remarks

variable {schema : Schema} {place : Path} {value : Value} {findings : List Finding}

theorem path_eq (remarks : schema.Remarks place value findings) :
    ∀ finding ∈ findings, finding.path = place := by
  cases remarks <;> simp [Finding.path]

theorem value_eq (remarks : schema.Remarks place value findings) {found : Problem}
    (listed : .problem found ∈ findings) : found.value = value := by
  cases remarks <;> simp at listed <;> rcases listed with rfl | rfl <;> rfl

theorem beside_hint (remarks : schema.Remarks place value findings) {notice : Notice}
    (listed : .hint notice ∈ findings) :
    ∃ text message, .problem ⟨place, .string text, message⟩ ∈ findings := by
  cases remarks with
  | misspelled message advice => exact ⟨_, message, List.mem_cons_self ..⟩
  | _ => simp at listed

theorem not_deprecation (remarks : schema.Remarks place value findings) (notice : Notice) :
    .deprecation notice ∉ findings := by
  cases remarks <;> simp

theorem length_problems_le (remarks : schema.Remarks place value findings) : (problems findings).length ≤ 2 := by
  cases remarks <;> simp

theorem two_problems (remarks : schema.Remarks place value findings) (two : (problems findings).length = 2) :
    ∃ entries, value = .map entries ∧ schema.TurnsAway entries ∧ schema.Misses entries := by
  cases remarks with
  | unknownAndMissing _ _ turnsAway misses => exact ⟨_, rfl, turnsAway, misses⟩
  | _ => simp at two

end Remarks

/-- A check only speaks of places inside of where it starts. -/
theorem path_of_mem_findings {schema : Schema} {value : Value} {path : Path} {finding : Finding}
    (listed : finding ∈ schema.findings path value) : ∃ steps, finding.path = path.extend steps := by
  rw [findings_eq_map_within] at listed
  obtain ⟨alone, _, rfl⟩ := List.mem_map.mp listed
  exact ⟨alone.path.segments, alone.path_within path⟩

/-- What is said about a part lies inside of the part. -/
theorem findingsAt_part_of_ne (part : Part) (path : Path) (steps : List Segment)
    (elsewhere : steps.head? ≠ some part.step) :
    findingsAt (path.extend steps) (part.node.findings (path.extend [part.step]) part.value) = [] := by
  refine findingsAt_eq_nil fun finding listed at_place => elsewhere ?_
  obtain ⟨more, at_more⟩ := path_of_mem_findings listed
  rw [at_more, Path.extend_extend, Path.extend_inj] at at_place
  rw [← at_place]
  rfl

/-- What a check says about a place, if it says anything, is what there is to say about the value
found there, judged by the node found there. -/
theorem findingsAt_findings {schema : Schema} {value : Value} (keyed : schema.Keyed)
    (distinct : value.DistinctKeys) (path : Path) (steps : List Segment) :
    findingsAt (path.extend steps) (schema.findings path value) = [] ∨
      ∃ node child, schema.walk? steps = some node ∧ value.walk? steps = some child ∧
        findingsAt (path.extend steps) (schema.findings path value) = node.ownFindings (path.extend steps) child := by
  -- the induction follows the path: at its end only the value itself is spoken of, and before that
  -- only the one part that the next step leads to
  induction steps generalizing schema value path with
  | nil =>
    refine Or.inr ⟨schema, value, schema.walk?_nil, value.walk?_nil, ?_⟩
    have ownHere := (remarks_ownFindings schema path value).path_eq
    have partsElsewhere : findingsAt path
        ((schema.parts value).flatMap fun part => part.node.findings (path.extend [part.step]) part.value) = [] := by
      rw [findingsAt_flatMap, List.flatMap_eq_nil_iff]
      intro part _
      simpa using findingsAt_part_of_ne part path [] (by simp)
    rw [Path.extend_nil, findings_eq, findingsAt_append, findingsAt_eq_self ownHere, partsElsewhere, List.append_nil]
  | cons step rest ih =>
    have ownElsewhere : findingsAt (path.extend (step :: rest)) (schema.ownFindings path value) = [] := by
      refine findingsAt_eq_nil fun finding listed at_place => ?_
      rw [(remarks_ownFindings schema path value).path_eq finding listed, ← path.extend_nil, Path.extend_extend,
        Path.extend_inj] at at_place
      cases at_place
    rw [findings_eq, findingsAt_append, ownElsewhere, List.nil_append, findingsAt_flatMap]
    rcases flatMap_eq_of_only (nodup_steps keyed distinct) step fun part _ other =>
      findingsAt_part_of_ne part path (step :: rest) (by simpa [eq_comm] using other)
      with none | ⟨part, isPart, rfl, same⟩
    · exact Or.inl none
    · obtain ⟨node, reached⟩ := reached_of_mem_parts keyed distinct isPart
      rw [same, walk?_cons, Value.walk?_cons, node, reached]
      simpa using ih (keyed.child? node) (distinct.child? reached) (path.extend [part.step])

/-- Where something is found, it is what there is to say about the value found there. -/
theorem findingsAt_of_mem_findings {schema : Schema} {value : Value} (keyed : schema.Keyed)
    (distinct : value.DistinctKeys) {path : Path} {finding : Finding} {steps : List Segment}
    (listed : finding ∈ schema.findings path value) (at_steps : finding.path = path.extend steps) :
    ∃ node child, schema.walk? steps = some node ∧ value.walk? steps = some child ∧
      findingsAt (path.extend steps) (schema.findings path value) = node.ownFindings (path.extend steps) child := by
  rcases findingsAt_findings keyed distinct path steps with none | found
  · have here : finding ∈ findingsAt (path.extend steps) (schema.findings path value) :=
      mem_findingsAt_iff.mpr ⟨listed, at_steps⟩
    rw [none] at here
    cases here
  · exact found

/-- Whatever a check finds is one of the remarks on the value at its place. -/
theorem remarks_of_mem_findings {schema : Schema} {value : Value} (keyed : schema.Keyed)
    (distinct : value.DistinctKeys) {path : Path} {finding : Finding} (listed : finding ∈ schema.findings path value) :
    ∃ steps node child, finding.path = path.extend steps ∧ schema.walk? steps = some node ∧
      value.walk? steps = some child ∧
      node.Remarks finding.path child (findingsAt finding.path (schema.findings path value)) := by
  obtain ⟨steps, at_steps⟩ := path_of_mem_findings listed
  obtain ⟨node, child, toNode, toChild, same⟩ := findingsAt_of_mem_findings keyed distinct listed at_steps
  rw [at_steps, same]
  exact ⟨steps, node, child, rfl, toNode, toChild, remarks_ownFindings node _ child⟩

/-- Nothing that a check finds is deprecated. -/
theorem deprecationNotices_findings (schema : Schema) (path : Path) (value : Value) :
    deprecationNotices (schema.findings path value) = [] := by
  induction schema, value using partInduction generalizing path with
  | step schema value inside =>
    have own : deprecationNotices (schema.ownFindings path value) = [] :=
      deprecationNotices_eq_nil_iff.mpr (remarks_ownFindings schema path value).not_deprecation
    rw [findings_eq, deprecationNotices_append, own, List.nil_append, deprecationNotices_eq_nil_iff]
    intro notice listed
    obtain ⟨part, isPart, deeper⟩ := List.mem_flatMap.mp listed
    exact deprecationNotices_eq_nil_iff.mp (inside part isPart _) notice deeper

/-- A check is never silent about a problem that it goes on from: without problems it finds nothing at all. -/
theorem findings_eq_nil_iff {schema : Schema} {path : Path} {value : Value} :
    schema.findings path value = [] ↔ problems (schema.findings path value) = [] := by
  refine ⟨fun nothing => by rw [nothing, problems_nil], fun clean => ?_⟩
  induction schema, value using partInduction generalizing path with
  | step schema value inside =>
    rw [findings_eq, problems_append, problems_flatMap, List.append_eq_nil_iff, List.flatMap_eq_nil_iff] at clean
    obtain ⟨ownClean, partsClean⟩ := clean
    have own := remarks_ownFindings schema path value
    rw [findings_eq, List.append_eq_nil_iff, List.flatMap_eq_nil_iff]
    refine ⟨?_, fun part isPart => inside part isPart (partsClean part isPart)⟩
    generalize schema.ownFindings path value = said at own ownClean
    cases own with
    | nothing => rfl
    | wrong | misspelled | unknownAndMissing => cases ownClean

/-- A check adds to the errors and the hints of a report and leaves the rest of it alone. What it adds is what it says
to an empty report when it starts at the root, with the place of its start before each path. Neither the report nor
the depth plays a part in anything else. -/
theorem check_adds_what_it_finds_at_root (schema : Schema) (value : Value) (path : Path) (report : Report) :
    let alone := (Report.ofSource none).check schema .root value
    alone.deprecations = [] ∧
      report.check schema path value =
        { report with
          errors := report.errors ++ alone.errors.map (Problem.within path)
          hints := report.hints ++ alone.hints.map (Notice.within path) } := by
  simp only [Report.check, Report.addAll_eq, deprecationNotices_findings, Report.ofSource, List.nil_append,
    List.append_nil, true_and]
  rw [findings_eq_map_within schema path, problems_map_within, hintNotices_map_within]

/-- A check adds errors and hints to a report and nothing else. The path of an error leads to the very
value that it records. A hint has the path of an error on a string. No place has more than two errors,
and only a map has two: one for keys that its node turns away, one for keys that its node misses. -/
theorem check_points_at_values {schema : Schema} {value : Value} (keyed : schema.Keyed)
    (distinct : value.DistinctKeys) (path : Path) (report : Report) :
    ∃ errors hints,
      report.check schema path value =
        { report with errors := report.errors ++ errors, hints := report.hints ++ hints } ∧
      (∀ error ∈ errors, ∃ steps, error.path = path.extend steps ∧ value.walk? steps = some error.value) ∧
      (∀ hint ∈ hints, ∃ error ∈ errors, error.path = hint.path ∧ ∃ text, error.value = .string text) ∧
      ∀ place,
        (errors.filter fun error => error.path = place).length ≤ 2 ∧
        ((errors.filter fun error => error.path = place).length = 2 →
          ∃ steps node entries, place = path.extend steps ∧ schema.walk? steps = some node ∧
            value.walk? steps = some (.map entries) ∧ node.TurnsAway entries ∧ node.Misses entries) := by
  have said {finding : Finding} (listed : finding ∈ schema.findings path value) :=
    remarks_of_mem_findings keyed distinct listed
  refine ⟨problems (schema.findings path value), hintNotices (schema.findings path value), ?_, ?_, ?_, ?_⟩
  · have noDeprecation : deprecationNotices (schema.findings path value) = [] := by
      refine deprecationNotices_eq_nil_iff.mpr fun notice listed => ?_
      obtain ⟨_, _, _, _, _, _, remarks⟩ := said listed
      exact remarks.not_deprecation notice (mem_findingsAt_iff.mpr ⟨listed, rfl⟩)
    rw [Report.check, Report.addAll_eq, noDeprecation, List.append_nil]
  · intro error isError
    have listed := mem_problems_iff.mp isError
    obtain ⟨steps, node, child, at_steps, _, reached, remarks⟩ := said listed
    rw [remarks.value_eq (mem_findingsAt_iff.mpr ⟨listed, rfl⟩)]
    exact ⟨steps, at_steps, reached⟩
  · intro hint isHint
    have listed := mem_hintNotices_iff.mp isHint
    obtain ⟨_, _, _, _, _, _, remarks⟩ := said listed
    obtain ⟨text, message, beside⟩ := remarks.beside_hint (mem_findingsAt_iff.mpr ⟨listed, rfl⟩)
    exact ⟨_, mem_problems_iff.mpr (mem_findingsAt_iff.mp beside).1, rfl, text, rfl⟩
  · intro place
    rw [← problems_findingsAt]
    cases some : findingsAt place (schema.findings path value) with
    | nil => simp
    | cons first rest =>
      have listed := mem_findingsAt_iff.mp (some ▸ List.mem_cons_self .. : first ∈ findingsAt place _)
      obtain rfl := listed.2
      obtain ⟨steps, node, child, at_steps, toNode, reached, remarks⟩ := said listed.1
      rw [some] at remarks
      refine ⟨remarks.length_problems_le, fun two => ?_⟩
      obtain ⟨entries, rfl, turnsAway, misses⟩ := remarks.two_problems two
      exact ⟨steps, node, entries, at_steps, toNode, reached, turnsAway, misses⟩

theorem check_points_at_values_copy :
    let schema := userConfig .empty
    let value : Value := .map
      [("type", .string "react-ap"),
        ("webpack", .map [("copy", .map [("from", .null)]), ("styles", .map [("css", .array [.map [("include", .null)],
          .map [("include", .bool true)]])])])]
    let start := Path.ofKeys ["base"]
    let copy := start.extend [.key "webpack", .key "copy"]
    let condition := start.extend [.key "webpack", .key "styles", .key "css", .index 1, .key "include"]
    schema.Keyed ∧ value.DistinctKeys ∧ ∃ errors hints,
      (Report.ofSource none).check schema start value = ⟨none, false, errors, [], hints⟩ ∧
      errors.map Problem.path = [start.key "type", copy, copy, condition] ∧ hints.map Notice.path = [start.key "type"] ∧
      (∀ error ∈ errors, ∃ steps, error.path = start.extend steps ∧ value.walk? steps = some error.value) ∧
      ∃ steps node entries, copy = start.extend steps ∧ schema.walk? steps = some node ∧
        value.walk? steps = some (.map entries) ∧ node.TurnsAway entries ∧ node.Misses entries := by
  intro schema value start copy condition
  have keyed : schema.Keyed := keyed_userConfig .empty
  have distinct : value.DistinctKeys := by decide
  obtain ⟨errors, hints, same, points, _, counts⟩ := check_points_at_values keyed distinct start (Report.ofSource none)
  have paths : ((Report.ofSource none).check schema start value).errors.map Problem.path =
      [start.key "type", copy, copy, condition] := by decide +kernel
  have advice : ((Report.ofSource none).check schema start value).hints.map Notice.path = [start.key "type"] := by
    decide +kernel
  have two : (((Report.ofSource none).check schema start value).errors.filter fun error =>
      error.path = copy).length = 2 := by decide +kernel
  rw [same] at paths advice two
  exact ⟨keyed, distinct, errors, hints, same, paths, advice, points, (counts copy).2 two⟩

end Schema

end BuildConfig
