import BuildConfig.Report

namespace BuildConfig

/-- The problem of a finding; notices are none. -/
def Finding.problem? : Finding → Option Problem
  | .problem found => some found
  | .deprecation _ => none
  | .hint _ => none

/-- The problems among findings, in the order in which they are found. -/
def problems (findings : List Finding) : List Problem :=
  findings.filterMap Finding.problem?

@[simp] theorem problems_nil : problems [] = [] := rfl

@[simp] theorem problems_cons_problem (found : Problem) (rest : List Finding) :
    problems (.problem found :: rest) = found :: problems rest := rfl

@[simp] theorem problems_cons_deprecation (notice : Notice) (rest : List Finding) :
    problems (.deprecation notice :: rest) = problems rest := rfl

@[simp] theorem problems_cons_hint (notice : Notice) (rest : List Finding) :
    problems (.hint notice :: rest) = problems rest := rfl

@[simp] theorem problems_append (findings more : List Finding) :
    problems (findings ++ more) = problems findings ++ problems more :=
  List.filterMap_append

@[simp] theorem problems_flatMap {α : Type} (sources : List α) (found : α → List Finding) :
    problems (sources.flatMap found) = sources.flatMap fun source => problems (found source) := by
  induction sources with
  | nil => rfl
  | cons source rest ih => simp only [List.flatMap_cons, problems_append, ih]

theorem problems_map_problem (found : List Problem) : problems (found.map .problem) = found := by
  induction found with
  | nil => rfl
  | cons first rest ih => rw [List.map_cons, problems_cons_problem, ih]

/-- The hint of a finding, if it is one. -/
def Finding.hint? : Finding → Option Notice
  | .problem _ => none
  | .deprecation _ => none
  | .hint notice => some notice

/-- The hints among findings, in the order in which they are found. -/
def hintNotices (findings : List Finding) : List Notice :=
  findings.filterMap Finding.hint?

/-- The deprecation of a finding, if it is one. -/
def Finding.deprecation? : Finding → Option Notice
  | .problem _ => none
  | .deprecation notice => some notice
  | .hint _ => none

/-- The deprecations among findings, in the order in which they are found. -/
def deprecationNotices (findings : List Finding) : List Notice :=
  findings.filterMap Finding.deprecation?

@[simp] theorem deprecationNotices_append (findings more : List Finding) :
    deprecationNotices (findings ++ more) = deprecationNotices findings ++ deprecationNotices more :=
  List.filterMap_append

@[simp] theorem hintNotices_append (findings more : List Finding) :
    hintNotices (findings ++ more) = hintNotices findings ++ hintNotices more :=
  List.filterMap_append

theorem map_hint_hintNotices {findings : List Finding}
    (hints : ∀ finding ∈ findings, ∃ notice, finding = .hint notice) :
    (hintNotices findings).map .hint = findings := by
  induction findings with
  | nil => rfl
  | cons first rest ih =>
    obtain ⟨notice, rfl⟩ := hints first (List.mem_cons_self ..)
    have later := ih fun finding listed => hints finding (List.mem_cons_of_mem _ listed)
    rw [hintNotices, List.filterMap_cons_some (show Finding.hint? (.hint notice) = some notice from rfl), List.map_cons,
      ← hintNotices, later]

theorem mem_problems_iff {findings : List Finding} {found : Problem} :
    found ∈ problems findings ↔ .problem found ∈ findings := by
  rw [problems, List.mem_filterMap]
  constructor
  · rintro ⟨finding, listed, same⟩
    cases finding <;> cases same
    exact listed
  · exact fun listed => ⟨_, listed, rfl⟩

theorem mem_hintNotices_iff {findings : List Finding} {notice : Notice} :
    notice ∈ hintNotices findings ↔ .hint notice ∈ findings := by
  rw [hintNotices, List.mem_filterMap]
  constructor
  · rintro ⟨finding, listed, same⟩
    cases finding <;> cases same
    exact listed
  · exact fun listed => ⟨_, listed, rfl⟩

theorem deprecationNotices_eq_nil_iff {findings : List Finding} :
    deprecationNotices findings = [] ↔ ∀ notice, .deprecation notice ∉ findings := by
  rw [deprecationNotices, List.filterMap_eq_nil_iff]
  constructor
  · intro none notice listed
    cases none _ listed
  · intro none finding listed
    cases finding with
    | deprecation notice => exact (none notice listed).elim
    | _ => rfl

/-- The place that a finding is about. -/
def Finding.path : Finding → Path
  | .problem found => found.path
  | .deprecation notice => notice.path
  | .hint notice => notice.path

/-- The findings about one place. -/
def findingsAt (place : Path) (findings : List Finding) : List Finding :=
  findings.filter fun finding => finding.path = place

theorem mem_findingsAt_iff {place : Path} {findings : List Finding} {finding : Finding} :
    finding ∈ findingsAt place findings ↔ finding ∈ findings ∧ finding.path = place := by
  simp [findingsAt]

theorem findingsAt_append (place : Path) (findings more : List Finding) :
    findingsAt place (findings ++ more) = findingsAt place findings ++ findingsAt place more :=
  List.filter_append ..

theorem findingsAt_flatMap {α : Type} (place : Path) (sources : List α) (found : α → List Finding) :
    findingsAt place (sources.flatMap found) = sources.flatMap fun source => findingsAt place (found source) := by
  induction sources with
  | nil => rfl
  | cons source rest ih => rw [List.flatMap_cons, findingsAt_append, ih, List.flatMap_cons]

theorem findingsAt_eq_self {place : Path} {findings : List Finding}
    (here : ∀ finding ∈ findings, finding.path = place) : findingsAt place findings = findings :=
  List.filter_eq_self.mpr fun finding listed => decide_eq_true (here finding listed)

theorem findingsAt_eq_nil {place : Path} {findings : List Finding}
    (elsewhere : ∀ finding ∈ findings, finding.path ≠ place) : findingsAt place findings = [] :=
  List.filter_eq_nil_iff.mpr fun finding listed at_place =>
    elsewhere finding listed (of_decide_eq_true at_place)

theorem problems_findingsAt (place : Path) (findings : List Finding) :
    problems (findingsAt place findings) = (problems findings).filter fun problem => problem.path = place := by
  induction findings with
  | nil => rfl
  | cons finding rest ih =>
    rw [findingsAt, List.filter_cons]
    cases finding with
    | problem found =>
      by_cases here : found.path = place
      · simp [Finding.path, here, ← ih, findingsAt]
      · simp [Finding.path, here, ← ih, findingsAt]
    | deprecation notice => split <;> simpa [findingsAt] using ih
    | hint notice => split <;> simpa [findingsAt] using ih

/-- Findings are added to the three collections of a report and change nothing else. -/
theorem Report.addAll_eq (report : Report) (findings : List Finding) :
    report.addAll findings =
      { report with
        errors := report.errors ++ problems findings
        deprecations := report.deprecations ++ deprecationNotices findings
        hints := report.hints ++ hintNotices findings } := by
  induction findings generalizing report with
  | nil => simp [addAll, problems, deprecationNotices, hintNotices]
  | cons finding rest ih =>
    rw [addAll, List.foldl_cons, ← addAll, ih]
    cases finding <;>
      simp [add, addError, addDeprecation, addHint, problems, deprecationNotices, hintNotices, List.filterMap_cons,
        Finding.problem?, Finding.deprecation?, Finding.hint?]

theorem Report.addAll_errors (report : Report) (findings : List Finding) :
    (report.addAll findings).errors = report.errors ++ problems findings := by
  rw [addAll_eq]

theorem Report.addAll_deprecations (report : Report) (findings : List Finding) :
    (report.addAll findings).deprecations = report.deprecations ++ deprecationNotices findings := by
  rw [addAll_eq]

theorem Report.addAll_errors_eq_iff {report : Report} {findings : List Finding} :
    (report.addAll findings).errors = report.errors ↔ problems findings = [] := by
  simp [addAll_errors]

end BuildConfig
