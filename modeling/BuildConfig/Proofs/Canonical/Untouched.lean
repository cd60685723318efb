import BuildConfig.Proofs.Canonical
import BuildConfig.Proofs.Value.Apart

namespace BuildConfig

/-- The places that canonical form can change: both ends of every move, and every shorthand. -/
def canonicalPlaces : List (List String) :=
  renames.map Rename.source ++ renames.map Rename.target ++ shorthands.map Shorthand.path

namespace Rename

/-- Both ends of a move. -/
def ends (rename : Rename) : List (List String) :=
  [rename.source, rename.target]

/-- Neither of two moves has anything to do with the ends of the other. -/
def ApartFrom (rename other : Rename) : Prop :=
  ∀ place ∈ rename.ends, ∀ elsewhere ∈ other.ends, Apart place elsewhere

instance (rename other : Rename) : Decidable (rename.ApartFrom other) :=
  inferInstanceAs (Decidable (∀ place ∈ rename.ends, ∀ elsewhere ∈ other.ends, Apart place elsewhere))

variable {rename other : Rename}

theorem ApartFrom.symm (apart : rename.ApartFrom other) : other.ApartFrom rename :=
  fun place inOther elsewhere inRename => (apart elsewhere inRename place inOther).symm

theorem ApartFrom.source (apart : rename.ApartFrom other) :
    Apart rename.source other.source ∧ Apart rename.source other.target :=
  ⟨apart _ (by simp [ends]) _ (by simp [ends]), apart _ (by simp [ends]) _ (by simp [ends])⟩

theorem ApartFrom.target (apart : rename.ApartFrom other) :
    Apart rename.target other.source ∧ Apart rename.target other.target :=
  ⟨apart _ (by simp [ends]) _ (by simp [ends]), apart _ (by simp [ends]) _ (by simp [ends])⟩

end Rename

section Tables

theorem renames_apart : ∀ rename ∈ renames, Apart rename.source rename.target := by decide

theorem renames_separate : renames.Pairwise Rename.ApartFrom := by decide

theorem shorthands_inside : ∀ shorthand ∈ shorthands, shorthand.path ≠ [] := by decide

theorem shorthands_separate : shorthands.Pairwise fun earlier later => Apart later.path earlier.path := by decide

/-- Moves and shorthands have nothing to do with each other. -/
theorem shorthands_apart_from_renames : ∀ shorthand ∈ shorthands, ∀ rename ∈ renames,
    Apart shorthand.path rename.source ∧ Apart shorthand.path rename.target := by decide

end Tables

theorem Rename.getPath?_apply {rename : Rename} {place : List String} (fromSource : Apart rename.source place)
    (fromTarget : Apart rename.target place) (config : Value) :
    (rename.apply config).1.getPath? place = config.getPath? place := by
  unfold Rename.apply
  split
  · rfl
  · rename_i takes
    have left := Value.getPath?_takePath?_of_apart fromSource takes
    split
    · exact left
    · exact (Value.getPath?_insertPath_of_apart fromTarget _ _).trans left

theorem getPath?_renameAll {path : List String} {steps : List Rename}
    (apart : ∀ rename ∈ steps, Apart path rename.source ∧ Apart path rename.target) (config : Value) :
    (renameAll steps config).1.getPath? path = config.getPath? path := by
  induction steps generalizing config with
  | nil => rfl
  | cons rename rest ih =>
    obtain ⟨fromSource, fromTarget⟩ := apart rename (List.mem_cons_self ..)
    exact (ih (fun other listed => apart other (List.mem_cons_of_mem _ listed)) _).trans
      (Rename.getPath?_apply fromSource.symm fromTarget.symm config)

theorem Shorthand.getPath?_expand {shorthand : Shorthand} {place : List String}
    (apart : Apart shorthand.path place) (config : Value) :
    (shorthand.expand config).getPath? place = config.getPath? place := by
  unfold Shorthand.expand
  split
  · split
    · exact Value.getPath?_insertPath_of_apart apart _ _
    · rfl
  · rfl

theorem getPath?_expandAll {path : List String} {steps : List Shorthand}
    (apart : ∀ shorthand ∈ steps, Apart shorthand.path path) (config : Value) :
    (expandAll steps config).getPath? path = config.getPath? path := by
  induction steps generalizing config with
  | nil => rfl
  | cons shorthand rest ih =>
    exact (ih (fun other listed => apart other (List.mem_cons_of_mem _ listed)) _).trans
      (Shorthand.getPath?_expand (apart shorthand (List.mem_cons_self ..)) config)

/-- What lies apart from the places of moved keys and shorthands stays in canonical form as it is. -/
theorem getPath?_canonicalize_of_apart {place : List String}
    (apart : ∀ touched ∈ canonicalPlaces, Apart touched place) (config : Value) :
    (canonicalize config).1.getPath? place = config.getPath? place := by
  have touched {path : List String} (listed : path ∈ canonicalPlaces) := apart path listed
  simp only [canonicalPlaces, List.mem_append, List.mem_map] at touched
  cases isMap : config.isMap with
  | false => rw [canonicalize_of_not_isMap isMap]
  | true =>
    rw [canonicalize_eq isMap, getPath?_expandAll fun shorthand listed => touched (Or.inr ⟨shorthand, listed, rfl⟩)]
    refine getPath?_renameAll (fun rename listed => ?_) config
    have fromSource := touched (Or.inl (Or.inl ⟨rename, listed, rfl⟩))
    have fromTarget := touched (Or.inl (Or.inr ⟨rename, listed, rfl⟩))
    exact ⟨fromSource.symm, fromTarget.symm⟩

end BuildConfig
