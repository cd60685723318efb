import Mathlib.Order.Bounds.Basic
import Mathlib.Order.MinMax

namespace BuildConfig

/-- One edit of a text: a character is put in, left out or exchanged, with the rest as it is. -/
inductive Edit : List Char → List Char → Prop
  | insert (before after : List Char) (char : Char) : Edit (before ++ after) (before ++ char :: after)
  | delete (before after : List Char) (char : Char) : Edit (before ++ char :: after) (before ++ after)
  | substitute (before after : List Char) (char other : Char) :
      Edit (before ++ char :: after) (before ++ other :: after)

/-- So many edits, one after the other, turn a text into another. -/
inductive EditsIn : Nat → List Char → List Char → Prop
  | none {text : List Char} : EditsIn 0 text text
  | next {count : Nat} {source between target : List Char} (first : Edit source between)
      (more : EditsIn count between target) : EditsIn (count + 1) source target

/-- The distance of two texts by recursion on their first characters. -/
def levenshtein : List Char → List Char → Nat
  | [], target => target.length
  | source, [] => source.length
  | source :: sources, target :: targets =>
    min (min (levenshtein sources targets + if source = target then 0 else 1)
      (levenshtein sources (target :: targets) + 1)) (levenshtein (source :: sources) targets + 1)

theorem levenshtein_nil_left (target : List Char) : levenshtein [] target = target.length := by
  rw [levenshtein]

theorem levenshtein_nil_right (source : List Char) : levenshtein source [] = source.length := by
  cases source with
  | nil => exact levenshtein_nil_left []
  | cons char rest => simp [levenshtein]

theorem levenshtein_cons_cons (char other : Char) (source target : List Char) :
    levenshtein (char :: source) (other :: target) =
      min (min (levenshtein source target + if char = other then 0 else 1)
        (levenshtein source (other :: target) + 1)) (levenshtein (char :: source) target + 1) := by
  rw [levenshtein]

theorem Edit.cons {source target : List Char} (edit : Edit source target) (char : Char) :
    Edit (char :: source) (char :: target) := by
  cases edit with
  | insert before after added => exact .insert (char :: before) after added
  | delete before after dropped => exact .delete (char :: before) after dropped
  | substitute before after old new => exact .substitute (char :: before) after old new

theorem Edit.reverse {source target : List Char} (edit : Edit source target) : Edit source.reverse target.reverse := by
  cases edit with
  | insert before after char =>
    simp only [List.reverse_append, List.reverse_cons, List.append_assoc, List.singleton_append]
    exact .insert after.reverse before.reverse char
  | delete before after char =>
    simp only [List.reverse_append, List.reverse_cons, List.append_assoc, List.singleton_append]
    exact .delete after.reverse before.reverse char
  | substitute before after char other =>
    simp only [List.reverse_append, List.reverse_cons, List.append_assoc, List.singleton_append]
    exact .substitute after.reverse before.reverse char other

theorem EditsIn.cons {count : Nat} {source target : List Char} (edits : EditsIn count source target) (char : Char) :
    EditsIn count (char :: source) (char :: target) := by
  induction edits with
  | none => exact .none
  | next first _ ih => exact .next (first.cons char) ih

theorem EditsIn.reverse {count : Nat} {source target : List Char} (edits : EditsIn count source target) :
    EditsIn count source.reverse target.reverse := by
  induction edits with
  | none => exact .none
  | next first _ ih => exact .next first.reverse ih

theorem editsIn_insertAll (target : List Char) : EditsIn target.length [] target := by
  induction target with
  | nil => exact .none
  | cons char rest ih => exact .next (.insert [] [] char) (ih.cons char)

theorem editsIn_deleteAll (source : List Char) : EditsIn source.length source [] := by
  induction source with
  | nil => exact .none
  | cons char rest ih => exact .next (.delete [] rest char) ih

/-- The recursion counts edits that do turn one text into the other. -/
theorem editsIn_levenshtein (source target : List Char) : EditsIn (levenshtein source target) source target := by
  induction source, target using levenshtein.induct with
  | case1 target =>
    rw [levenshtein_nil_left]
    exact editsIn_insertAll target
  | case2 source =>
    rw [levenshtein_nil_right]
    exact editsIn_deleteAll source
  | case3 char source other target between shorter longer =>
    have substituting : EditsIn (levenshtein source target + if char = other then 0 else 1) (char :: source)
        (other :: target) := by
      split
      · rename_i same
        exact same ▸ between.cons char
      · exact .next (.substitute [] source char other) (between.cons other)
    have deleting : EditsIn (levenshtein source (other :: target) + 1) (char :: source) (other :: target) :=
      .next (.delete [] source char) shorter
    have inserting : EditsIn (levenshtein (char :: source) target + 1) (char :: source) (other :: target) :=
      .next (.insert [] (char :: source) other) (longer.cons other)
    rw [levenshtein_cons_cons]
    rcases min_choice (min (levenshtein source target + if char = other then 0 else 1)
      (levenshtein source (other :: target) + 1)) (levenshtein (char :: source) target + 1) with least | least
    · rw [least]
      rcases min_choice (levenshtein source target + if char = other then 0 else 1)
        (levenshtein source (other :: target) + 1) with least | least <;> rw [least]
      · exact substituting
      · exact deleting
    · rw [least]
      exact inserting

theorem levenshtein_cons_left_le (char : Char) (source target : List Char) :
    levenshtein (char :: source) target ≤ levenshtein source target + 1 := by
  cases target with
  | nil => simp only [levenshtein_nil_right, List.length_cons, Nat.le_refl]
  | cons other target =>
    rw [levenshtein_cons_cons]
    omega

theorem levenshtein_cons_right_le (source : List Char) (char : Char) (target : List Char) :
    levenshtein source (char :: target) ≤ levenshtein source target + 1 := by
  cases source with
  | nil => simp only [levenshtein_nil_left, List.length_cons, Nat.le_refl]
  | cons other source =>
    rw [levenshtein_cons_cons]
    omega

theorem levenshtein_le_cons_left (char : Char) (source target : List Char) :
    levenshtein source target ≤ levenshtein (char :: source) target + 1 := by
  induction target with
  | nil =>
    simp only [levenshtein_nil_right, List.length_cons]
    omega
  | cons other target ih =>
    have longer := levenshtein_cons_right_le source other target
    rw [levenshtein_cons_cons]
    omega

theorem levenshtein_substitute_le (char other : Char) (source target : List Char) :
    levenshtein (char :: source) target ≤ levenshtein (other :: source) target + 1 := by
  induction target with
  | nil =>
    simp only [levenshtein_nil_right, List.length_cons]
    omega
  | cons wanted target ih =>
    rw [levenshtein_cons_cons, levenshtein_cons_cons]
    split <;> split <;> omega

/-- Texts that are as far, but for one edit, from every target stay so behind a common beginning. -/
theorem levenshtein_append_le {source between : List Char}
    (near : ∀ target, levenshtein source target ≤ levenshtein between target + 1) (before target : List Char) :
    levenshtein (before ++ source) target ≤ levenshtein (before ++ between) target + 1 := by
  induction before generalizing target with
  | nil => exact near target
  | cons char before ih =>
    rw [List.cons_append, List.cons_append]
    induction target with
    | nil =>
      have lengths := ih []
      simp only [levenshtein_nil_right, List.length_cons] at lengths ⊢
      omega
    | cons other target insideTarget =>
      have substituting := ih target
      have deleting := ih (other :: target)
      rw [levenshtein_cons_cons, levenshtein_cons_cons]
      omega

theorem Edit.levenshtein_le {source between : List Char} (edit : Edit source between) (target : List Char) :
    levenshtein source target ≤ levenshtein between target + 1 := by
  cases edit with
  | insert before after char => exact levenshtein_append_le (levenshtein_le_cons_left char after) before target
  | delete before after char => exact levenshtein_append_le (levenshtein_cons_left_le char after) before target
  | substitute before after char other =>
    exact levenshtein_append_le (levenshtein_substitute_le char other after) before target

theorem levenshtein_self (text : List Char) : levenshtein text text = 0 := by
  induction text with
  | nil => rw [levenshtein_nil_left, List.length_nil]
  | cons char rest ih =>
    rw [levenshtein_cons_cons, if_pos rfl, ih]
    omega

theorem EditsIn.levenshtein_le {count : Nat} {source target : List Char} (edits : EditsIn count source target) :
    levenshtein source target ≤ count := by
  induction edits with
  | none => exact (levenshtein_self _).le
  | next first _ ih => exact (first.levenshtein_le _).trans (Nat.succ_le_succ ih)

/-- The recursion finds the least number of edits. -/
theorem isLeast_levenshtein (source target : List Char) :
    IsLeast {count | EditsIn count source target} (levenshtein source target) :=
  ⟨editsIn_levenshtein source target, fun _ edits => edits.levenshtein_le⟩

/-- Texts that are read from their ends have the same distance. -/
theorem levenshtein_reverse (source target : List Char) :
    levenshtein source.reverse target.reverse = levenshtein source target := by
  refine Nat.le_antisymm (editsIn_levenshtein source target).reverse.levenshtein_le ?_
  have edits := (editsIn_levenshtein source.reverse target.reverse).reverse
  rw [List.reverse_reverse, List.reverse_reverse] at edits
  exact edits.levenshtein_le

/-- The recursion on last characters, as the cells of a distance table are related. -/
theorem levenshtein_concat_concat (source target : List Char) (char other : Char) :
    levenshtein (source ++ [char]) (target ++ [other]) =
      min (min (levenshtein source target + if char = other then 0 else 1)
        (levenshtein source (target ++ [other]) + 1)) (levenshtein (source ++ [char]) target + 1) := by
  rw [← levenshtein_reverse (source ++ [char]) (target ++ [other]), ← levenshtein_reverse source target,
    ← levenshtein_reverse source (target ++ [other]), ← levenshtein_reverse (source ++ [char]) target]
  simp only [List.reverse_append, List.reverse_singleton, List.singleton_append]
  exact levenshtein_cons_cons char other source.reverse target.reverse

end BuildConfig
