import BuildConfig.Proofs.Wording.DistanceTable

namespace BuildConfig

variable {count more : Nat} {source between target : List Char}

theorem Edit.symm (edit : Edit source target) : Edit target source := by
  cases edit with
  | insert before after char => exact .delete before after char
  | delete before after char => exact .insert before after char
  | substitute before after char other => exact .substitute before after other char

theorem Edit.length_le (edit : Edit source target) : target.length ≤ source.length + 1 := by
  cases edit <;> simp only [List.length_append, List.length_cons] <;> omega

namespace EditsIn

theorem trans (edits : EditsIn count source between) (later : EditsIn more between target) :
    EditsIn (count + more) source target := by
  induction edits with
  | none => rwa [Nat.zero_add]
  | next first _ ih =>
    rw [Nat.add_right_comm]
    exact .next first (ih later)

/-- Edits are taken back one by one, the last one first. -/
theorem symm (edits : EditsIn count source target) : EditsIn count target source := by
  induction edits with
  | none => exact .none
  | next first _ ih => exact ih.trans (.next first.symm .none)

theorem length_le (edits : EditsIn count source target) : target.length ≤ source.length + count := by
  induction edits with
  | none => exact Nat.le_refl _
  | next first _ ih =>
    have longer := first.length_le
    omega

end EditsIn

theorem levenshtein_eq_zero_iff : levenshtein source target = 0 ↔ source = target := by
  constructor
  · intro zero
    have edits := editsIn_levenshtein source target
    rw [zero] at edits
    cases edits
    rfl
  · rintro rfl
    exact levenshtein_self source

theorem levenshtein_comm (source target : List Char) : levenshtein source target = levenshtein target source :=
  Nat.le_antisymm (editsIn_levenshtein target source).symm.levenshtein_le
    (editsIn_levenshtein source target).symm.levenshtein_le

theorem levenshtein_triangle (source between target : List Char) :
    levenshtein source target ≤ levenshtein source between + levenshtein between target :=
  ((editsIn_levenshtein source between).trans (editsIn_levenshtein between target)).levenshtein_le

/-- It is never worth more than to exchange every character of the shorter text and to put in the rest of the longer. -/
theorem levenshtein_le_max (source target : List Char) :
    levenshtein source target ≤ max source.length target.length := by
  induction source, target using levenshtein.induct with
  | case1 target =>
    rw [levenshtein_nil_left]
    exact Nat.le_max_right ..
  | case2 source =>
    rw [levenshtein_nil_right]
    exact Nat.le_max_left ..
  | case3 char source other target substituted _ _ =>
    rw [levenshtein_cons_cons, List.length_cons, List.length_cons]
    split <;> omega

theorem editDistance_eq_levenshtein (a b : String) : editDistance a b = levenshtein a.toList b.toList := by
  rw [editDistance, twoRowDistance?_eq, Option.getD_some]

theorem editDistance_eq_zero_iff {a b : String} : editDistance a b = 0 ↔ a = b := by
  rw [editDistance_eq_levenshtein, levenshtein_eq_zero_iff, String.toList_inj]

/-- The distance is a metric on texts. It is at least the difference of their lengths, and at most the larger length. -/
theorem editDistance_obeys_metric_laws (a b c : String) :
    (editDistance a b = 0 ↔ a = b) ∧
      editDistance a b = editDistance b a ∧
      editDistance a c ≤ editDistance a b + editDistance b c ∧
      max a.length b.length - min a.length b.length ≤ editDistance a b ∧
      editDistance a b ≤ max a.length b.length := by
  refine ⟨editDistance_eq_zero_iff, ?_⟩
  simp only [editDistance_eq_levenshtein, ← String.length_toList]
  have edits := editsIn_levenshtein a.toList b.toList
  have longer := edits.length_le
  have shorter := edits.symm.length_le
  exact ⟨levenshtein_comm _ _, levenshtein_triangle _ _ _, by omega, levenshtein_le_max _ _⟩

end BuildConfig
