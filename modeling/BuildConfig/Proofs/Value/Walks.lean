import BuildConfig.Path
import BuildConfig.Proofs.Value.Trees

namespace BuildConfig

namespace Path

/-- The place some more steps further inside. -/
def extend (path : Path) (steps : List Segment) : Path :=
  ⟨path.segments ++ steps⟩

@[simp] theorem extend_nil (path : Path) : path.extend [] = path := by
  simp [extend]

@[simp] theorem extend_extend (path : Path) (steps more : List Segment) :
    (path.extend steps).extend more = path.extend (steps ++ more) := by
  simp [extend]

@[simp] theorem extend_inj {path : Path} {steps more : List Segment} :
    path.extend steps = path.extend more ↔ steps = more := by
  simp [extend]

theorem key_eq_extend (path : Path) (name : String) : path.key name = path.extend [.key name] := rfl

end Path

namespace Value

/-- The value one step inside: under a key of a map, or at a position of an array. -/
def child? : Value → Segment → Option Value
  | .map entries, .key name => Entries.get? entries name
  | .array items, .index position => items[position]?
  | _, _ => none

/-- The value that is reached by following steps. -/
def walk? (value : Value) : List Segment → Option Value
  | [] => some value
  | step :: rest => (value.child? step).bind fun child => child.walk? rest

theorem walk?_nil (value : Value) : value.walk? [] = some value := by
  rw [walk?]

theorem walk?_cons (value : Value) (step : Segment) (rest : List Segment) :
    value.walk? (step :: rest) = (value.child? step).bind fun child => child.walk? rest := by
  rw [walk?]

theorem DistinctKeys.child? {value child : Value} {step : Segment} (distinct : value.DistinctKeys)
    (found : value.child? step = some child) : child.DistinctKeys := by
  cases value with
  | map entries =>
    cases step with
    | key name => exact (distinctKeys_map.mp distinct).2 name child found
    | index => cases found
  | array items =>
    cases step with
    | key => cases found
    | index position => exact distinctKeys_array.mp distinct child (List.mem_of_getElem? found)
  | _ => cases step <;> cases found

theorem DistinctKeys.walk? {value child : Value} {steps : List Segment} (distinct : value.DistinctKeys)
    (reached : value.walk? steps = some child) : child.DistinctKeys := by
  induction steps generalizing value with
  | nil =>
    cases reached
    exact distinct
  | cons step rest ih =>
    rw [walk?_cons] at reached
    obtain ⟨inner, found, further⟩ := Option.bind_eq_some_iff.mp reached
    exact ih (distinct.child? found) further

/-- Another value one step inside. Without a value there, nothing changes. -/
def setChild : Value → Segment → Value → Value
  | .map entries, .key name, child => .map (Entries.insert entries name child)
  | .array items, .index position, child => .array (items.set position child)
  | value, _, _ => value

/-- Another value at the end of a walk. -/
def setAt (value : Value) : List Segment → Value → Value
  | [], new => new
  | step :: rest, new =>
    match value.child? step with
    | some child => value.setChild step (child.setAt rest new)
    | none => value

theorem setAt_nil (value new : Value) : value.setAt [] new = new := by
  rw [setAt]

theorem setAt_cons {value child : Value} {step : Segment} (found : value.child? step = some child)
    (rest : List Segment) (new : Value) :
    value.setAt (step :: rest) new = value.setChild step (child.setAt rest new) := by
  rw [setAt, found]

theorem setChild_child? {value child : Value} {step : Segment} (found : value.child? step = some child) :
    value.setChild step child = value := by
  cases value <;> cases step <;> try cases found
  case map.key entries name => rw [setChild, Entries.insert_of_get? found]
  case array.index items position =>
    obtain ⟨bound, rfl⟩ := List.getElem?_eq_some_iff.mp found
    rw [setChild, List.set_getElem_self]

theorem setAt_walk? {value child : Value} {steps : List Segment} (reached : value.walk? steps = some child) :
    value.setAt steps child = value := by
  induction steps generalizing value with
  | nil =>
    cases reached
    rw [setAt_nil]
  | cons step rest ih =>
    rw [walk?_cons] at reached
    obtain ⟨inner, found, further⟩ := Option.bind_eq_some_iff.mp reached
    rw [setAt_cons found, ih further, setChild_child? found]

theorem setAt_ne_null {value child new : Value} {steps : List Segment} (reached : value.walk? steps = some child)
    (notNull : new ≠ .null) : value.setAt steps new ≠ .null := by
  cases steps with
  | nil => rwa [setAt_nil]
  | cons step rest =>
    rw [walk?_cons] at reached
    obtain ⟨inner, found, _⟩ := Option.bind_eq_some_iff.mp reached
    rw [setAt_cons found]
    cases value <;> cases step <;> try cases found
    all_goals simp [setChild]

end Value

end BuildConfig
