import BuildConfig.Path
import BuildConfig.Proofs.Number.Text

namespace BuildConfig

/-- An index, or a key that shows its end: it is not empty, and it holds neither a dot nor an opening bracket. It may
hold digits, closing brackets and blanks. -/
def Segment.Plain : Segment → Prop
  | .key name => name ≠ "" ∧ '.' ∉ name.toList ∧ '[' ∉ name.toList
  | .index _ => True

instance : (segment : Segment) → Decidable segment.Plain
  | .key name => inferInstanceAs (Decidable (name ≠ "" ∧ '.' ∉ name.toList ∧ '[' ∉ name.toList))
  | .index _ => isTrue trivial

namespace Path

/-- The characters that do not begin a step. -/
def isInsideStep (c : Char) : Bool :=
  c ≠ '.' && c ≠ '['

/-- The text of steps that do not come first. -/
def stepsChars (steps : List Segment) : List Char :=
  steps.flatMap fun segment => (stepText segment).toList

variable {name other : String} {position : Nat} {segment next : Segment} {steps more : List Segment}
  {rest later : List Char}

theorem toList_stepText_key (name : String) : (stepText (.key name)).toList = '.' :: name.toList := by
  rw [stepText, String.toList_append]
  rfl

theorem toList_stepText_index (position : Nat) :
    (stepText (.index position)).toList = '[' :: (Nat.toDigits 10 position ++ [']']) := by
  rw [stepText, String.toList_append, String.toList_append, Nat.toString_eq_repr, Nat.toList_repr]
  rfl

theorem isInsideStep_of_mem (plain : (Segment.key name).Plain) : ∀ c ∈ name.toList, isInsideStep c = true := by
  obtain ⟨_, noDot, noBracket⟩ := plain
  intro c mem
  simp only [isInsideStep, Bool.and_eq_true, decide_eq_true_eq]
  exact ⟨ne_of_mem_of_not_mem mem noDot, ne_of_mem_of_not_mem mem noBracket⟩

theorem stopsAt_stepsChars (steps : List Segment) : StopsAt isInsideStep (stepsChars steps) := by
  cases steps with
  | nil => exact stopsAt_nil
  | cons segment steps =>
    rw [stepsChars, List.flatMap_cons]
    cases segment with
    | key name =>
      rw [toList_stepText_key]
      exact stopsAt_cons rfl
    | index position =>
      rw [toList_stepText_index]
      exact stopsAt_cons rfl

/-- A plain key is told apart from the steps after it. -/
theorem key_append_inj (plain : (Segment.key name).Plain) (otherPlain : (Segment.key other).Plain)
    (same : name.toList ++ stepsChars steps = other.toList ++ stepsChars more) :
    name = other ∧ stepsChars steps = stepsChars more := by
  obtain ⟨names, rests⟩ := eq_of_append_eq (isInsideStep_of_mem plain) (isInsideStep_of_mem otherPlain)
    (stopsAt_stepsChars steps) (stopsAt_stepsChars more) same
  exact ⟨String.toList_inj.mp names, rests⟩

/-- The number of an index is told apart from the bracket after it. -/
theorem index_append_inj {position place : Nat}
    (same : Nat.toDigits 10 position ++ ']' :: rest = Nat.toDigits 10 place ++ ']' :: later) :
    position = place ∧ rest = later := by
  obtain ⟨digits, rests⟩ := eq_of_append_eq (fun _ digit => isDigit_toDigits digit)
    (fun _ digit => isDigit_toDigits digit) (stopsAt_cons rfl) (stopsAt_cons rfl) same
  have numbers := congrArg (Text.digitsValue 10) digits
  rw [digitsValue_toDigits, digitsValue_toDigits] at numbers
  exact ⟨numbers, (List.cons.inj rests).2⟩

/-- A step after the first is told apart from what follows: a dot or a bracket tells its kind. -/
theorem stepText_append_inj (plain : segment.Plain) (nextPlain : next.Plain)
    (same : (stepText segment).toList ++ stepsChars steps = (stepText next).toList ++ stepsChars more) :
    segment = next ∧ stepsChars steps = stepsChars more := by
  cases segment with
  | key name =>
    cases next with
    | key other =>
      rw [toList_stepText_key, toList_stepText_key] at same
      obtain ⟨rfl, rests⟩ := key_append_inj plain nextPlain (List.cons.inj same).2
      exact ⟨rfl, rests⟩
    | index place =>
      rw [toList_stepText_key, toList_stepText_index] at same
      exact absurd (List.cons.inj same).1 (by decide)
  | index position =>
    cases next with
    | key other =>
      rw [toList_stepText_index, toList_stepText_key] at same
      exact absurd (List.cons.inj same).1 (by decide)
    | index place =>
      rw [toList_stepText_index, toList_stepText_index] at same
      simp only [List.cons_append, List.append_assoc, List.nil_append] at same
      obtain ⟨rfl, rests⟩ := index_append_inj (List.cons.inj same).2
      exact ⟨rfl, rests⟩

theorem stepsChars_inj (plain : ∀ segment ∈ steps, segment.Plain) (morePlain : ∀ segment ∈ more, segment.Plain)
    (same : stepsChars steps = stepsChars more) : steps = more := by
  have text_ne_nil (segment : Segment) : (stepText segment).toList ≠ [] := by
    cases segment <;> simp [toList_stepText_key, toList_stepText_index]
  induction steps generalizing more with
  | nil =>
    cases more with
    | nil => rfl
    | cons next more => exact absurd (List.append_eq_nil_iff.mp same.symm).1 (text_ne_nil next)
  | cons segment steps ih =>
    cases more with
    | nil => exact absurd (List.append_eq_nil_iff.mp same).1 (text_ne_nil segment)
    | cons next more =>
      rw [List.forall_mem_cons] at plain morePlain
      obtain ⟨rfl, rests⟩ := stepText_append_inj plain.1 morePlain.1 same
      rw [ih plain.2 morePlain.2 rests]

theorem toList_text_key (name : String) (rest : List Segment) :
    (Path.mk (.key name :: rest)).text.toList = name.toList ++ stepsChars rest := by
  rw [text, String.toList_append, String.toList_join, List.flatMap_map]
  rfl

theorem toList_text_index (position : Nat) (rest : List Segment) :
    (Path.mk (.index position :: rest)).text.toList = stepsChars (.index position :: rest) := by
  rw [text, String.toList_join, List.flatMap_map]
  rfl

/-- A path that begins with a key does not read like one that begins with an index. -/
theorem key_append_ne_index (plain : (Segment.key name).Plain) :
    name.toList ++ rest ≠ stepsChars (.index position :: steps) := by
  obtain ⟨notEmpty, _, noBracket⟩ := plain
  cases chars : name.toList with
  | nil => exact absurd (String.toList_eq_nil_iff.mp chars) notEmpty
  | cons first others =>
    intro same
    rw [stepsChars, List.flatMap_cons, toList_stepText_index] at same
    rw [chars, (List.cons.inj same).1] at noBracket
    exact noBracket (List.mem_cons_self ..)

/-- Away from the root, paths of plain keys and any indexes are the same if they read the same, whatever comes first. -/
theorem text_eq_text_iff_of_plain {path other : Path} (inside : path ≠ .root) (otherInside : other ≠ .root)
    (plain : ∀ segment ∈ path.segments, segment.Plain) (otherPlain : ∀ segment ∈ other.segments, segment.Plain) :
    path.text = other.text ↔ path.segments = other.segments := by
  constructor
  · intro same
    obtain ⟨steps⟩ := path
    obtain ⟨more⟩ := other
    have chars := congrArg String.toList same
    match steps, more with
    | [], _ => exact absurd rfl inside
    | _, [] => exact absurd rfl otherInside
    | .key name :: steps, .key other :: more =>
      rw [toList_text_key, toList_text_key] at chars
      rw [List.forall_mem_cons] at plain otherPlain
      obtain ⟨rfl, rests⟩ := key_append_inj plain.1 otherPlain.1 chars
      rw [stepsChars_inj plain.2 otherPlain.2 rests]
    | .key name :: steps, .index place :: more =>
      rw [toList_text_key, toList_text_index] at chars
      exact absurd chars (key_append_ne_index (plain _ (List.mem_cons_self ..)))
    | .index position :: steps, .key other :: more =>
      rw [toList_text_key, toList_text_index] at chars
      exact absurd chars.symm (key_append_ne_index (otherPlain _ (List.mem_cons_self ..)))
    | .index position :: steps, .index place :: more =>
      rw [toList_text_index, toList_text_index] at chars
      exact stepsChars_inj plain otherPlain chars
  · intro same
    rw [text, same, text]

/-- The digits of one index or of two, before a key of digits and a bracket. -/
theorem text_eq_text_iff_of_plain_brackets :
    let path : Path := ⟨[.index 10, .key "1] 0", .index 2]⟩
    let other : Path := ⟨[.index 1, .index 0, .key "1] 0", .index 2]⟩
    path ≠ .root ∧ other ≠ .root ∧ (∀ segment ∈ path.segments, segment.Plain) ∧
      (∀ segment ∈ other.segments, segment.Plain) ∧ path.text ≠ other.text := by
  intro path other
  have inside : path ≠ .root := by decide
  have otherInside : other ≠ .root := by decide
  have plain : ∀ segment ∈ path.segments, segment.Plain := by decide
  have otherPlain : ∀ segment ∈ other.segments, segment.Plain := by decide
  exact ⟨inside, otherInside, plain, otherPlain,
    (text_eq_text_iff_of_plain inside otherInside plain otherPlain).not.mpr (by decide)⟩

/-- A dot in a key reads like a step. -/
example : (Path.ofKeys ["lodash.merge"]).text = (Path.ofKeys ["lodash", "merge"]).text := by decide

end Path

end BuildConfig
