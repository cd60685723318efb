import BuildConfig.Proofs.Schema.UserSchema

namespace BuildConfig

namespace Alternatives

variable {accepted : Alternatives} {value : Value}

/-- The value is one of those that a place lists: an exception, one of a kind that is asked for, or a choice.
Where nothing is listed, every value is. -/
def Describes (accepted : Alternatives) (value : Value) : Prop :=
  accepted.Excepts value ∨ accepted.Admits value ∨ ∃ text ∈ accepted.choices, value = .string text

instance (accepted : Alternatives) (value : Value) : Decidable (accepted.Describes value) :=
  have excepts : Decidable (accepted.Excepts value) := decidable_of_iff _ isException_iff
  have admits : Decidable (accepted.Admits value) :=
    decidable_of_iff ((accepted.kinds = [] ∧ accepted.choices = []) ∨ accepted.matchesKind value = true)
      (or_congr_right matchesKind_iff)
  have chosen : Decidable (∃ text ∈ accepted.choices, value = .string text) :=
    match value with
    | .string text => decidable_of_iff (text ∈ accepted.choices) (by simp)
    | .null | .bool _ | .number _ | .pattern _ | .array _ | .map _ | .function _ => isFalse (by simp)
  inferInstanceAs (Decidable (_ ∨ _ ∨ _))

/-- With choices and exceptions but no kinds, only strings are held to the list. -/
def Overlooks (accepted : Alternatives) (value : Value) : Prop :=
  accepted.kinds = [] ∧ accepted.choices ≠ [] ∧ accepted.exceptions ≠ [] ∧ ∀ text, value ≠ .string text

theorem Unmixed.not_overlooks (unmixed : accepted.Unmixed) : ¬accepted.Overlooks value := by
  rintro ⟨noKinds, choices, exceptions, _⟩
  exact (unmixed noKinds).elim choices exceptions

theorem describes_of_offers (offers : accepted.Offers value) : accepted.Describes value :=
  Or.inr (Or.inr offers.2.2)

/-- A choice is offered, unless any string will do. -/
theorem not_describes (notExcepted : ¬accepted.Excepts value) (notOffered : ¬accepted.Offers value)
    (notAdmitted : ¬accepted.Admits value) : ¬accepted.Describes value := by
  rintro (excepted | admitted | ⟨text, listed, rfl⟩)
  · exact notExcepted excepted
  · exact notAdmitted admitted
  · refine notOffered ⟨List.ne_nil_of_mem listed, fun strings => ?_, text, listed, rfl⟩
    exact notAdmitted (Or.inr ⟨.string, strings, rfl⟩)

section Mixed

variable (noKinds : accepted.kinds = []) (choices : accepted.choices ≠ [])
include noKinds choices

theorem describes_iff_of_mixed :
    accepted.Describes value ↔ accepted.Excepts value ∨ ∃ text ∈ accepted.choices, value = .string text := by
  simp [Describes, Admits, noKinds, choices]

theorem overlooks_iff_of_mixed (exceptions : accepted.exceptions ≠ []) :
    accepted.Overlooks value ↔ ∀ text, value ≠ .string text := by
  simp [Overlooks, noKinds, choices, exceptions]

/-- Where there are choices and exceptions and no kinds, nothing but a string is rejected. -/
theorem verdict_rejected_iff_of_mixed (exceptions : accepted.exceptions ≠ []) :
    (∃ message meant, accepted.verdict value = .rejected message meant) ↔
      ¬accepted.Excepts value ∧ ∃ text, value = .string text ∧ text ∉ accepted.choices := by
  unfold verdict
  by_cases excepted : accepted.Excepts value
  · simp [isException_iff.mpr excepted, excepted]
  rw [if_neg (mt isException_iff.mp excepted)]
  cases value with
  | string text => by_cases chosen : text ∈ accepted.choices <;> simp [noKinds, choices, chosen, excepted]
  | _ => simp [noKinds, choices, exceptions, kindVerdict]

end Mixed

/-- A value is rejected exactly when it is not among those listed, save for what is overlooked. -/
theorem verdict_rejected_iff (accepted : Alternatives) (value : Value) :
    (∃ message meant, accepted.verdict value = .rejected message meant) ↔
      ¬accepted.Describes value ∧ ¬accepted.Overlooks value := by
  by_cases unmixed : accepted.Unmixed
  · have meaning := verdict_meaning unmixed value
    cases verdict : accepted.verdict value with
    | passes =>
      rw [verdict] at meaning
      have described : accepted.Describes value := meaning.elim Or.inl describes_of_offers
      simp [described]
    | rejected message meant =>
      rw [verdict] at meaning
      obtain ⟨notExcepted, notOffered, notAdmitted⟩ := meaning
      simp [not_describes notExcepted notOffered notAdmitted, unmixed.not_overlooks]
    | lookInside =>
      rw [verdict] at meaning
      obtain ⟨_, _, admitted⟩ := meaning
      have described : accepted.Describes value := Or.inr (Or.inl admitted)
      simp [described]
  · simp only [Unmixed, not_forall, not_or] at unmixed
    obtain ⟨noKinds, choices, exceptions⟩ := unmixed
    rw [verdict_rejected_iff_of_mixed noKinds choices exceptions, describes_iff_of_mixed noKinds choices,
      overlooks_iff_of_mixed noKinds choices exceptions]
    cases value <;> simp

end Alternatives

namespace Schema

variable {schema : Schema} {value : Value}

theorem problems_of_undescribed (path : Path)
    (undescribed : ¬schema.accepted.Describes value ∧ ¬schema.accepted.Overlooks value) :
    ∃ message, problems (schema.findings path value) = [⟨path, value, message⟩] := by
  obtain ⟨accepted, fields, unknownKeys, requireAny, items, values, singleEntry⟩ := schema
  obtain ⟨message, meant, rejected⟩ := (accepted.verdict_rejected_iff value).mpr undescribed
  exact ⟨message, by rw [findings_of_rejected _ _ _ _ _ _ _ rejected, problems_rejection]⟩

theorem problems_of_scalar (path : Path) (notMap : value.isMap = false) (notArray : value.isArray = false)
    (passes : schema.accepted.Describes value ∨ schema.accepted.Overlooks value) :
    problems (schema.findings path value) = [] := by
  obtain ⟨accepted, fields, unknownKeys, requireAny, items, values, singleEntry⟩ := schema
  cases verdict : accepted.verdict value with
  | passes => rw [findings_of_passes _ _ _ _ _ _ _ verdict, problems_nil]
  | rejected message meant =>
    obtain ⟨notDescribed, notOverlooked⟩ := (accepted.verdict_rejected_iff value).mp ⟨message, meant, verdict⟩
    exact (passes.elim notDescribed notOverlooked).elim
  | lookInside => rw [findings_scalar _ _ _ _ _ _ _ verdict notMap notArray, problems_nil]

/-- No node of the schema of user configurations overlooks a value. -/
theorem userConfig_overlooks_nothing (plugins : Preprocessors) :
    (userConfig plugins).Everywhere fun accepted => ∀ value, ¬accepted.Overlooks value :=
  (unmixed_userConfig plugins).imp fun _ unmixed _ => unmixed.not_overlooks

end Schema

/-- A value at which a check records no error is among those that the place lists. The exception are places with
choices and exceptions and no kinds, where every value that is no string goes unnoticed. A value with nothing inside
of it has no other errors than that. -/
theorem check_stops_undescribed_values (schema : Schema) (value : Value) (path : Path) (report : Report) :
    ∃ errors, (report.check schema path value).errors = report.errors ++ errors ∧
      ((∀ error ∈ errors, error.path ≠ path) → schema.accepted.Describes value ∨ schema.accepted.Overlooks value) ∧
      (value.isMap = false → value.isArray = false →
        schema.accepted.Describes value ∨ schema.accepted.Overlooks value → errors = []) := by
  refine ⟨_, Report.addAll_errors report _, fun elsewhere => ?_, Schema.problems_of_scalar path⟩
  by_contra undescribed
  obtain ⟨message, rejected⟩ := Schema.problems_of_undescribed path (not_or.mp undescribed)
  rw [rejected] at elsewhere
  exact elsewhere _ (List.mem_singleton_self _) rfl

theorem check_stops_undescribed_values_or_old :
    let schema := ((Schema.ofKind .boolean).orChoices ["old"]).orFalse
    let report := (Report.ofSource none).addError .root .null "earlier"
    let path := Path.ofKeys ["mode"]
    schema.accepted.Describes (.string "old") ∧
      (report.check schema path (.string "old")).errors = report.errors ∧
      ¬schema.accepted.Describes (.ofInt 3) ∧
      ∃ errors, (report.check schema path (.ofInt 3)).errors = report.errors ++ errors ∧
        ∃ error ∈ errors, error.path = path := by
  intro schema report path
  have described : schema.accepted.Describes (.string "old") := by decide
  have undescribed : ¬schema.accepted.Describes (.ofInt 3) := by decide
  obtain ⟨none, added, _, silent⟩ := check_stops_undescribed_values schema (.string "old") path report
  obtain ⟨errors, addedLater, stops, _⟩ := check_stops_undescribed_values schema (.ofInt 3) path report
  rw [silent rfl rfl (Or.inl described), List.append_nil] at added
  refine ⟨described, added, undescribed, errors, addedLater, ?_⟩
  by_contra elsewhere
  have passes := stops fun error listed here => elsewhere ⟨error, listed, here⟩
  exact passes.elim undescribed fun overlooks => nomatch overlooks.1

/-- Choices beside `false` let every value pass that is no string. -/
theorem choices_beside_false_let_numbers_pass :
    let schema := (Schema.ofChoices ["always"]).orFalse
    ((Report.ofSource none).check schema .root (.ofInt 3)).errors = [] ∧
      ¬schema.accepted.Describes (.ofInt 3) := by
  intro schema
  exact ⟨rfl, by decide⟩

end BuildConfig
