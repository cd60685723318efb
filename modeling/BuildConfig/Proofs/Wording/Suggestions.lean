import BuildConfig.Proofs.Wording.Metric

namespace BuildConfig

/-- The earliest of the candidates that no other is nearer than: those before it are further away, and those after it
are no nearer. -/
def IsNearest (input : String) (candidates : List String) (candidate : String) : Prop :=
  ∃ before after, candidates = before ++ candidate :: after ∧
    (∀ earlier ∈ before, editDistance input candidate < editDistance input earlier) ∧
    ∀ later ∈ after, editDistance input candidate ≤ editDistance input later

variable {input candidate other : String} {candidates seen : List String} {best : Option (Nat × String)}

namespace IsNearest

theorem mem (nearest : IsNearest input candidates candidate) : candidate ∈ candidates := by
  obtain ⟨before, after, rfl, _, _⟩ := nearest
  exact List.mem_append_right before (List.mem_cons_self ..)

theorem le (nearest : IsNearest input candidates candidate) (listed : other ∈ candidates) :
    editDistance input candidate ≤ editDistance input other := by
  obtain ⟨before, after, rfl, further, noNearer⟩ := nearest
  rcases List.mem_append.mp listed with earlier | here
  · exact (further other earlier).le
  · rcases List.mem_cons.mp here with rfl | later
    · exact Nat.le_refl _
    · exact noNearer other later

theorem unique (nearest : IsNearest input candidates candidate) (too : IsNearest input candidates other) :
    candidate = other := by
  have notFurther := nearest.le too.mem
  have notNearer := too.le nearest.mem
  obtain ⟨before, after, rfl, further, _⟩ := nearest
  obtain ⟨otherBefore, otherAfter, same, otherFurther, _⟩ := too
  -- if one of the two stood before the other, it would be further away
  rcases List.append_eq_append_iff.mp same with ⟨between, rfl, rest⟩ | ⟨between, rfl, rest⟩
  · cases between with
    | nil => exact (List.cons.inj rest).1
    | cons first between =>
      obtain rfl := (List.cons.inj rest).1
      have earlier := otherFurther candidate (by simp)
      omega
  · cases between with
    | nil => exact (List.cons.inj rest).1.symm
    | cons first between =>
      obtain rfl := (List.cons.inj rest).1
      have earlier := further other (by simp)
      omega

/-- One more candidate that is no nearer. -/
theorem concat_of_le (nearest : IsNearest input seen candidate)
    (noNearer : editDistance input candidate ≤ editDistance input other) :
    IsNearest input (seen ++ [other]) candidate := by
  obtain ⟨before, after, rfl, further, afterNoNearer⟩ := nearest
  refine ⟨before, after ++ [other], by simp, further, fun later listed => ?_⟩
  rcases List.mem_append.mp listed with known | last
  · exact afterNoNearer later known
  · rwa [List.mem_singleton.mp last]

end IsNearest

/-- One more candidate that is nearer than all before it. -/
theorem isNearest_concat (further : ∀ earlier ∈ seen, editDistance input other < editDistance input earlier) :
    IsNearest input (seen ++ [other]) other :=
  ⟨seen, [], rfl, further, by simp⟩

/-- What is remembered of the candidates seen so far: nothing as long as all are more than two edits away, else the
nearest one with its distance. -/
inductive BestOf (input : String) (seen : List String) : Option (Nat × String) → Prop
  | none (far : ∀ candidate ∈ seen, 2 < editDistance input candidate) : BestOf input seen none
  | some {candidate : String} (nearest : IsNearest input seen candidate) (near : editDistance input candidate ≤ 2) :
      BestOf input seen (some (editDistance input candidate, candidate))

/-- A candidate is remembered in place of the best one so far if it is nearer, and two edits away at most. -/
def improve (input : String) (best : Option (Nat × String)) (candidate : String) : Option (Nat × String) :=
  let distance := editDistance input candidate
  let improves := match best with
    | some (least, _) => distance < least
    | none => true
  if distance ≤ 2 && improves then some (distance, candidate) else best

theorem suggestSimilar_eq (input : String) (candidates : List String) :
    suggestSimilar input candidates = (candidates.foldl (improve input) none).map Prod.snd := rfl

theorem improve_none (input candidate : String) :
    improve input none candidate =
      if editDistance input candidate ≤ 2 then some (editDistance input candidate, candidate) else none := by
  simp [improve]

theorem improve_some (input leader candidate : String) (least : Nat) :
    improve input (some (least, leader)) candidate =
      if editDistance input candidate ≤ 2 ∧ editDistance input candidate < least then
        some (editDistance input candidate, candidate)
      else some (least, leader) := by
  simp [improve]

theorem BestOf.concat (bestOf : BestOf input seen best) (candidate : String) :
    BestOf input (seen ++ [candidate]) (improve input best candidate) := by
  cases bestOf with
  | none far =>
    by_cases near : editDistance input candidate ≤ 2
    · rw [improve_none, if_pos near]
      exact .some (isNearest_concat fun earlier listed => near.trans_lt (far earlier listed)) near
    · rw [improve_none, if_neg near]
      refine .none fun other listed => ?_
      rcases List.mem_append.mp listed with known | last
      · exact far other known
      · rw [List.mem_singleton.mp last]
        exact not_le.mp near
  | @some leader nearest near =>
    by_cases nearer : editDistance input candidate < editDistance input leader
    · have within : editDistance input candidate ≤ 2 := nearer.le.trans near
      rw [improve_some, if_pos ⟨within, nearer⟩]
      exact .some (isNearest_concat fun earlier listed => nearer.trans_le (nearest.le listed)) within
    · rw [improve_some, if_neg fun better => nearer better.2]
      exact .some (nearest.concat_of_le (not_lt.mp nearer)) near

theorem BestOf.foldl_improve (bestOf : BestOf input seen best) (rest : List String) :
    BestOf input (seen ++ rest) (rest.foldl (improve input) best) := by
  induction rest generalizing seen best with
  | nil => rwa [List.append_nil]
  | cons candidate rest ih =>
    rw [List.append_cons]
    exact ih (bestOf.concat candidate)

/-- Either every candidate is more than two edits away and nothing is suggested, or the nearest is. -/
theorem suggestSimilar_cases (input : String) (candidates : List String) :
    (suggestSimilar input candidates = none ∧ ∀ candidate ∈ candidates, 2 < editDistance input candidate) ∨
      ∃ candidate, suggestSimilar input candidates = some candidate ∧ IsNearest input candidates candidate ∧
        editDistance input candidate ≤ 2 := by
  have start : BestOf input [] none := .none (by simp)
  have bestOf := start.foldl_improve candidates
  rw [List.nil_append] at bestOf
  rw [suggestSimilar_eq]
  generalize candidates.foldl (improve input) none = best at bestOf
  cases bestOf with
  | none far => exact Or.inl ⟨rfl, far⟩
  | some nearest near => exact Or.inr ⟨_, rfl, nearest, near⟩

theorem suggestSimilar_eq_none_iff :
    suggestSimilar input candidates = none ↔ ∀ candidate ∈ candidates, 2 < editDistance input candidate := by
  rcases suggestSimilar_cases input candidates with ⟨none, far⟩ | ⟨candidate, suggested, nearest, near⟩
  · exact iff_of_true none far
  · rw [suggested]
    exact iff_of_false (by simp) fun far => absurd (far candidate nearest.mem) (not_lt.mpr near)

theorem suggestSimilar_eq_some_iff :
    suggestSimilar input candidates = some candidate ↔
      IsNearest input candidates candidate ∧ editDistance input candidate ≤ 2 := by
  rcases suggestSimilar_cases input candidates with ⟨none, far⟩ | ⟨other, suggested, nearest, near⟩
  · rw [none]
    exact iff_of_false (by simp) fun ⟨nearest, near⟩ => absurd (far candidate nearest.mem) (not_lt.mpr near)
  · rw [suggested, Option.some.injEq]
    constructor
    · rintro rfl
      exact ⟨nearest, near⟩
    · exact fun ⟨too, _⟩ => nearest.unique too

end BuildConfig
