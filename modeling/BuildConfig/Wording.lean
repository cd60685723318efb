namespace BuildConfig

/-- The plural ending for a count of things. -/
def pluralEnding (count : Nat) : String :=
  if count = 1 then "" else "s"

/-- Alternatives in a sentence: `a, b or c`. -/
def joinOr : List String → String
  | [] => ""
  | [only] => only
  | items =>
    String.intercalate ", " items.dropLast ++ " or " ++ items.getLast?.getD ""

/-- The two rows of the distance table that are kept: the one written last, and the one in progress.
Until a cell of the latter is written, it holds what an older row left there. -/
structure DistanceRows where
  previous : List Nat
  current : List Nat

namespace DistanceRows

/-- Writes a cell of the row in progress; `none` when the row has no such cell. -/
def write? (rows : DistanceRows) (position cell : Nat) : Option DistanceRows :=
  if position < rows.current.length then
    some { rows with current := rows.current.set position cell }
  else none

/-- The cell for one character of either text: a substitution comes from the upper left, a deletion
from above and an insertion from the left. -/
def fill? (source : Char) (rows : DistanceRows) (column : Char × Nat) : Option DistanceRows := do
  let (char, position) := column
  let diagonal ← rows.previous[position]?
  let above ← rows.previous[position + 1]?
  let left ← rows.current[position]?
  let substituted := diagonal + if source = char then 0 else 1
  rows.write? (position + 1) (min (min substituted (above + 1)) (left + 1))

/-- The row for one character of the first text. Then the two rows change places. -/
def advance? (target : List Char) (rows : DistanceRows) (line : Char × Nat) :
    Option DistanceRows := do
  let (source, position) := line
  let started ← rows.write? 0 (position + 1)
  let filled ← target.zipIdx.foldlM (fill? source) started
  return ⟨filled.current, filled.previous⟩

end DistanceRows

/-- The last cell of the distance table, which is written row by row; `none` when a cell outside of
a row is read or written. -/
def twoRowDistance? (source target : List Char) : Option Nat := do
  let start : DistanceRows :=
    ⟨List.range (target.length + 1), List.replicate (target.length + 1) 0⟩
  let rows ← source.zipIdx.foldlM (DistanceRows.advance? target) start
  rows.previous[target.length]?

/-- The least number of insertions, deletions and substitutions of single characters that turn one
text into the other. -/
def editDistance (a b : String) : Nat :=
  (twoRowDistance? a.toList b.toList).getD 0

/-- The earliest of the candidates nearest to the input, if it is within two edits. -/
def suggestSimilar (input : String) (candidates : List String) : Option String :=
  let nearest := candidates.foldl (fun (best : Option (Nat × String)) candidate =>
    let distance := editDistance input candidate
    let improves := match best with
      | some (least, _) => distance < least
      | none => true
    if distance ≤ 2 && improves then some (distance, candidate) else best) none
  nearest.map Prod.snd

end BuildConfig
