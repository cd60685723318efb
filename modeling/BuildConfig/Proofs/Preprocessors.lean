import BuildConfig.Preprocessors
import BuildConfig.Proofs.Entries.KeyOrder

namespace BuildConfig.Preprocessors

/-- Registrations taken up one by one, none of them in the place of an earlier one. -/
def takeUp (known more : Entries Value) : Entries Value :=
  more.foldl (fun known (id, config) => Entries.insertNew known id config) known

theorem merge_eq (plugins other : Preprocessors) :
    plugins.merge other = ⟨takeUp plugins.registered other.registered⟩ :=
  rfl

theorem takeUp_cons (known : Entries Value) (id : String) (config : Value) (rest : Entries Value) :
    takeUp known ((id, config) :: rest) = takeUp (Entries.insertNew known id config) rest :=
  rfl

theorem takeUp_append (known more others : Entries Value) :
    takeUp known (more ++ others) = takeUp (takeUp known more) others :=
  List.foldl_append

theorem get?_takeUp (known more : Entries Value) (id : String) :
    Entries.get? (takeUp known more) id = (Entries.get? known id).or (Entries.get? more id) := by
  induction more generalizing known with
  | nil => exact Option.or_none.symm
  | cons entry rest ih =>
    obtain ⟨name, config⟩ := entry
    rw [takeUp_cons, ih, Entries.get?_insertNew, Option.or_assoc, Entries.get?]
    congr 1
    split <;> rfl

theorem keys_takeUp {known : Entries Value} (distinct : Entries.Distinct known) (more : Entries Value) :
    Entries.keys (takeUp known more) = (Entries.keys known ++ Entries.keys more).eraseDups :=
  Entries.keys_foldl (fun known entry => Entries.keys_insertNew known entry.1 entry.2) distinct more

/-- Registrations of ids that are known already change nothing. -/
theorem takeUp_of_known {known more : Entries Value} (all : Entries.keys more ⊆ Entries.keys known) :
    takeUp known more = known := by
  induction more with
  | nil => rfl
  | cons entry rest ih =>
    obtain ⟨id, config⟩ := entry
    rw [Entries.keys_cons, List.cons_subset] at all
    rw [takeUp_cons, Entries.insertNew, if_pos (Entries.contains_iff_mem.mpr all.1), ih all.2]

theorem mem_keys_takeUp {known more : Entries Value} {id : String} :
    id ∈ Entries.keys (takeUp known more) ↔ id ∈ Entries.keys known ∨ id ∈ Entries.keys more := by
  simp only [← Entries.contains_iff_mem, Entries.contains, get?_takeUp, Option.isSome_or, Bool.or_eq_true]

/-- One more registration can be taken up before the others are, or after it was added to them. -/
theorem takeUp_insertNew (known more : Entries Value) (id : String) (config : Value) :
    takeUp known (Entries.insertNew more id config) = Entries.insertNew (takeUp known more) id config := by
  by_cases present : Entries.contains more id = true
  · have held : id ∈ Entries.keys (takeUp known more) :=
      mem_keys_takeUp.mpr (Or.inr (Entries.contains_iff_mem.mp present))
    simp only [Entries.insertNew, if_pos present, if_pos (Entries.contains_iff_mem.mpr held)]
  · have later : takeUp known (more ++ [(id, config)]) = Entries.insertNew (takeUp known more) id config :=
      takeUp_append known more [(id, config)]
    rw [← later]
    exact congrArg (takeUp known) (if_neg present)

theorem takeUp_takeUp (known more others : Entries Value) :
    takeUp known (takeUp more others) = takeUp (takeUp known more) others := by
  induction others generalizing more with
  | nil => rfl
  | cons entry rest ih =>
    obtain ⟨id, config⟩ := entry
    rw [takeUp_cons, ih, takeUp_insertNew, takeUp_cons]

theorem takeUp_nil {more : Entries Value} (distinct : Entries.Distinct more) : takeUp [] more = more := by
  refine Entries.foldl_eq_append ?_ distinct
  rintro known ⟨id, config⟩ fresh
  have missing : ¬Entries.contains known id = true := by simp [Entries.contains, fresh]
  exact if_neg missing

end BuildConfig.Preprocessors
