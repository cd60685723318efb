import BuildConfig.Proofs.Value.Alike
import BuildConfig.Schema.Check

namespace BuildConfig

namespace Alternatives

/-- The value equals one that passes whatever its kind. -/
def Excepts (accepted : Alternatives) (value : Value) : Prop :=
  ∃ exception ∈ accepted.exceptions, exception.same value = true

/-- The value is a choice, at a place where strings do not pass as such. -/
def Offers (accepted : Alternatives) (value : Value) : Prop :=
  accepted.choices ≠ [] ∧ Kind.string ∉ accepted.kinds ∧ ∃ text ∈ accepted.choices, value = .string text

/-- Nothing is asked for, or the kind of the value is. -/
def Admits (accepted : Alternatives) (value : Value) : Prop :=
  (accepted.kinds = [] ∧ accepted.choices = []) ∨ ∃ kind ∈ accepted.kinds, kind.accepts value = true

/-- Choices and exceptions stand together only where there are kinds as well. -/
def Unmixed (accepted : Alternatives) : Prop :=
  accepted.kinds = [] → accepted.choices = [] ∨ accepted.exceptions = []

theorem isException_iff {accepted : Alternatives} {value : Value} :
    accepted.isException value = true ↔ accepted.Excepts value := by
  simp [isException, Excepts]

theorem matchesKind_iff {accepted : Alternatives} {value : Value} :
    accepted.matchesKind value = true ↔ ∃ kind ∈ accepted.kinds, kind.accepts value = true := by
  simp [matchesKind]

theorem not_offers_of_not_string (accepted : Alternatives) {value : Value}
    (notString : ∀ text, value ≠ .string text) : ¬accepted.Offers value := by
  rintro ⟨_, _, text, _, same⟩
  exact notString text same

/-- What each verdict says about the three ways in which a value can pass. -/
def Verdict.Meaning (accepted : Alternatives) (value : Value) : Verdict → Prop
  | .passes => accepted.Excepts value ∨ accepted.Offers value
  | .rejected _ _ => ¬accepted.Excepts value ∧ ¬accepted.Offers value ∧ ¬accepted.Admits value
  | .lookInside => ¬accepted.Excepts value ∧ ¬accepted.Offers value ∧ accepted.Admits value

/-- The verdict on a value that is neither an exception nor a choice, judged by kinds alone. -/
theorem kindVerdict_meaning {accepted : Alternatives} {value : Value}
    (notExcepted : ¬accepted.Excepts value) (notOffered : ¬accepted.Offers value)
    (free : accepted.kinds = [] → accepted.choices = []) :
    Verdict.Meaning accepted value (accepted.kindVerdict value) := by
  unfold kindVerdict
  split
  · rename_i passing
    refine ⟨notExcepted, notOffered, ?_⟩
    rcases Bool.or_eq_true_iff.mp passing with noKinds | matched
    · have none := List.isEmpty_iff.mp noKinds
      exact Or.inl ⟨none, free none⟩
    · exact Or.inr (matchesKind_iff.mp matched)
  · rename_i closed
    simp only [Bool.or_eq_true, not_or, List.isEmpty_iff] at closed
    refine ⟨notExcepted, notOffered, ?_⟩
    rintro (⟨noKinds, _⟩ | matched)
    · exact closed.1 noKinds
    · exact closed.2 (matchesKind_iff.mpr matched)

theorem verdict_meaning {accepted : Alternatives} (unmixed : accepted.Unmixed) (value : Value) :
    Verdict.Meaning accepted value (accepted.verdict value) := by
  unfold verdict
  split
  · rename_i excepted
    exact Or.inl (isException_iff.mp excepted)
  rename_i notException
  have notExcepted : ¬accepted.Excepts value := mt isException_iff.mpr notException
  split
  · rename_i plain
    simp only [Bool.or_eq_true, List.isEmpty_iff, List.contains_iff_mem] at plain
    refine kindVerdict_meaning notExcepted ?_ fun noKinds => ?_
    · rintro ⟨some, noString, _⟩
      exact plain.elim some noString
    · refine plain.resolve_right ?_
      simp [noKinds]
  · rename_i choosing
    simp only [Bool.or_eq_true, List.isEmpty_iff, List.contains_iff_mem, not_or] at choosing
    obtain ⟨choices, noString⟩ := choosing
    split
    · rename_i text
      by_cases chosen : text ∈ accepted.choices
      · rw [if_pos (List.contains_iff_mem.mpr chosen)]
        exact Or.inr ⟨choices, noString, text, chosen, rfl⟩
      · rw [if_neg (mt List.contains_iff_mem.mp chosen)]
        refine ⟨notExcepted, ?_, ?_⟩
        · rintro ⟨_, _, other, listed, same⟩
          cases same
          exact chosen listed
        · rintro (⟨_, noChoices⟩ | ⟨kind, listed, accepts⟩)
          · exact choices noChoices
          · cases kind <;> first | exact noString listed | simp [Kind.accepts] at accepts
    · rename_i notString
      have notOffered := accepted.not_offers_of_not_string notString
      split
      · rename_i bare
        simp only [Bool.and_eq_true, List.isEmpty_iff] at bare
        refine ⟨notExcepted, notOffered, ?_⟩
        rintro (⟨_, noChoices⟩ | ⟨kind, listed, _⟩)
        · exact choices noChoices
        · simp [bare.1] at listed
      · rename_i more
        simp only [Bool.and_eq_true, List.isEmpty_iff, not_and] at more
        exact kindVerdict_meaning notExcepted notOffered fun noKinds =>
          (unmixed noKinds).resolve_right (more noKinds)

theorem Admits.map {accepted : Alternatives} {entries : Entries Value}
    (admitted : accepted.Admits (.map entries)) (others : Entries Value) : accepted.Admits (.map others) := by
  refine admitted.imp_right fun ⟨kind, listed, accepts⟩ => ⟨kind, listed, ?_⟩
  cases kind <;> first | rfl | simp [Kind.accepts] at accepts

theorem Admits.array {accepted : Alternatives} {items : List Value}
    (admitted : accepted.Admits (.array items)) (others : List Value) : accepted.Admits (.array others) := by
  refine admitted.imp_right fun ⟨kind, listed, accepts⟩ => ⟨kind, listed, ?_⟩
  cases kind <;> first | rfl | simp [Kind.accepts] at accepts

/-- No exception is a map or an array. -/
def ScalarExceptions (accepted : Alternatives) : Prop :=
  ∀ exception ∈ accepted.exceptions, exception.isMap = false ∧ exception.isArray = false

theorem noExceptions_scalar {kinds : List Kind} {choices : List String} {description : Option String} :
    (Alternatives.mk kinds choices [] description).ScalarExceptions := by
  intro exception listed
  cases listed

theorem ScalarExceptions.map {accepted : Alternatives} (scalar : accepted.ScalarExceptions)
    (entries : Entries Value) : ¬accepted.Excepts (.map entries) := by
  rintro ⟨exception, listed, same⟩
  have isMap := Value.isMap_of_same same
  rw [(scalar exception listed).1] at isMap
  cases isMap

/-- A map whose kind is asked for is looked into. -/
theorem verdict_map {accepted : Alternatives} {entries : Entries Value} (unmixed : accepted.Unmixed)
    (scalar : accepted.ScalarExceptions) (admitted : accepted.Admits (.map entries)) :
    accepted.verdict (.map entries) = .lookInside := by
  have meaning := verdict_meaning unmixed (.map entries)
  cases verdict : accepted.verdict (.map entries) with
  | passes =>
    rw [verdict] at meaning
    exact (meaning.elim (scalar.map entries) (accepted.not_offers_of_not_string (by simp))).elim
  | rejected =>
    rw [verdict] at meaning
    exact (meaning.2.2 admitted).elim
  | lookInside => rfl

theorem ScalarExceptions.array {accepted : Alternatives} (scalar : accepted.ScalarExceptions)
    (items : List Value) : ¬accepted.Excepts (.array items) := by
  rintro ⟨exception, listed, same⟩
  have isArray := Value.isArray_of_same same
  rw [(scalar exception listed).2] at isArray
  cases isArray

end Alternatives

end BuildConfig
