import BuildConfig.Proofs.Wording.Edits
import BuildConfig.Wording

namespace BuildConfig

namespace DistanceRows

/-- A row of the distance table for a text. Its first cells hold the distances of the text from the beginnings of the
target, the shortest first; nothing is said about cells that are not written yet. -/
structure RowOf (source target : List Char) (written : Nat) (row : List Nat) : Prop where
  size : row.length = target.length + 1
  cells : ∀ position < written, row[position]? = some (levenshtein source (target.take position))

/-- Between two lines of the table the row written last is finished, and of the other one only the size counts. -/
structure Between (source target : List Char) (rows : DistanceRows) : Prop where
  previous : RowOf source target (target.length + 1) rows.previous
  spare : rows.current.length = target.length + 1

variable {source done target : List Char} {written position : Nat} {row : List Nat} {rows : DistanceRows}
  {char other : Char}

theorem write?_eq (within : position < rows.current.length) (cell : Nat) :
    rows.write? position cell = some { rows with current := rows.current.set position cell } :=
  if_pos within

theorem RowOf.write (rowOf : RowOf source target written row) (within : written < row.length) :
    RowOf source target (written + 1) (row.set written (levenshtein source (target.take written))) where
  size := by rw [List.length_set, rowOf.size]
  cells := by
    intro position before
    by_cases last : written = position
    · rw [← last, List.getElem?_set_self within]
    · rw [List.getElem?_set_ne last]
      exact rowOf.cells position (by omega)

/-- A cell is written from three cells that are there: two of the finished row and the one written last. -/
theorem exists_fill? (above : RowOf done target (target.length + 1) rows.previous)
    (progress : RowOf (done ++ [char]) target (position + 1) rows.current)
    (atPosition : target[position]? = some other) :
    ∃ row, rows.fill? char (other, position) = some ⟨rows.previous, row⟩ ∧
      RowOf (done ++ [char]) target (position + 2) row := by
  have inside : position < target.length := (List.getElem?_eq_some_iff.mp atPosition).1
  have within : position + 1 < rows.current.length := by
    rw [progress.size]
    omega
  have longer : target.take (position + 1) = target.take position ++ [other] := by
    rw [List.take_add_one, atPosition, Option.toList_some]
  have cell := levenshtein_concat_concat done (target.take position) char other
  rw [← longer] at cell
  refine ⟨_, ?_, progress.write within⟩
  rw [fill?, above.cells position (by omega), above.cells (position + 1) (by omega),
    progress.cells position (Nat.lt_succ_self position), cell]
  exact write?_eq within _

/-- The rest of a row is written to its end, and the finished row above stays. -/
theorem exists_foldlM_fill? (rows : DistanceRows) {rest : List Char}
    (above : RowOf done target (target.length + 1) rows.previous)
    (progress : RowOf (done ++ [char]) target (position + 1) rows.current) (left : target.drop position = rest) :
    ∃ row, (rest.zipIdx position).foldlM (fill? char) rows = some ⟨rows.previous, row⟩ ∧
      RowOf (done ++ [char]) target (target.length + 1) row := by
  induction rest generalizing position rows with
  | nil =>
    have whole : target.length ≤ position := List.drop_eq_nil_iff.mp left
    exact ⟨rows.current, rfl, progress.size, fun position before => progress.cells position (by omega)⟩
  | cons other rest ih =>
    have atPosition : target[position]? = some other := by
      rw [← List.head?_drop, left, List.head?_cons]
    have leftAfter : target.drop (position + 1) = rest := by
      rw [← List.tail_drop, left, List.tail_cons]
    obtain ⟨row, fills, further⟩ := exists_fill? above progress atPosition
    rw [List.zipIdx_cons, List.foldlM_cons, fills]
    exact ih _ above further leftAfter

/-- A line of the table is written without leaving a row, and the rows change places. -/
theorem exists_advance? (between : Between done target rows) (char : Char) :
    ∃ next, rows.advance? target (char, done.length) = some next ∧ Between (done ++ [char]) target next := by
  have within : 0 < rows.current.length := by
    rw [between.spare]
    omega
  have blank : RowOf (done ++ [char]) target 0 rows.current := ⟨between.spare, fun _ none => by omega⟩
  have first : levenshtein (done ++ [char]) (target.take 0) = done.length + 1 := by
    rw [List.take_zero, levenshtein_nil_right, List.length_append, List.length_singleton]
  have started := blank.write within
  rw [first] at started
  obtain ⟨row, fills, finished⟩ :=
    exists_foldlM_fill? ⟨rows.previous, rows.current.set 0 (done.length + 1)⟩ between.previous started List.drop_zero
  refine ⟨⟨row, rows.previous⟩, ?_, finished, between.previous.size⟩
  simp only [advance?, write?_eq within, fills, Option.bind_eq_bind, Option.bind_some, Option.pure_def]

theorem exists_foldlM_advance? (between : Between done target rows) (todo : List Char) :
    ∃ last, (todo.zipIdx done.length).foldlM (advance? target) rows = some last ∧
      Between (done ++ todo) target last := by
  induction todo generalizing done rows with
  | nil =>
    refine ⟨rows, rfl, ?_⟩
    rwa [List.append_nil]
  | cons char todo ih =>
    obtain ⟨next, advances, further⟩ := exists_advance? between char
    obtain ⟨last, runs, finished⟩ := ih further
    rw [List.length_append, List.length_singleton] at runs
    rw [List.append_assoc] at finished
    refine ⟨last, ?_, finished⟩
    rw [List.zipIdx_cons, List.foldlM_cons, advances]
    exact runs

/-- Before the first line the row above holds the distances from the empty text. -/
theorem between_start (target : List Char) :
    Between [] target ⟨List.range (target.length + 1), List.replicate (target.length + 1) 0⟩ where
  previous := by
    refine ⟨List.length_range, fun position before => ?_⟩
    rw [List.getElem?_range before, levenshtein_nil_left, List.length_take, Nat.min_eq_left (by omega)]
  spare := List.length_replicate

end DistanceRows

/-- The table is written and read inside of its rows only, and its last cell is the distance of the whole texts. -/
theorem twoRowDistance?_eq (source target : List Char) :
    twoRowDistance? source target = some (levenshtein source target) := by
  obtain ⟨last, runs, finished⟩ := DistanceRows.exists_foldlM_advance? (DistanceRows.between_start target) source
  have atEnd := finished.previous.cells target.length (Nat.lt_succ_self _)
  rw [List.take_length, List.nil_append] at atEnd
  rw [List.length_nil] at runs
  simp only [twoRowDistance?, runs, Option.bind_eq_bind, Option.bind_some, atEnd]

/-- The two rows are never left, and the distance that they end with is the least number of characters to put in, leave
out or exchange, one after the other, until one text has become the other. -/
theorem editDistance_counts_least_edits (a b : String) :
    twoRowDistance? a.toList b.toList = some (editDistance a b) ∧
      IsLeast {count | EditsIn count a.toList b.toList} (editDistance a b) ∧
      editDistance a b = levenshtein a.toList b.toList := by
  have computed := twoRowDistance?_eq a.toList b.toList
  have same : editDistance a b = levenshtein a.toList b.toList := by rw [editDistance, computed, Option.getD_some]
  rw [same]
  exact ⟨computed, isLeast_levenshtein a.toList b.toList, rfl⟩

/-- Two characters are exchanged and one is put in. -/
example : editDistance "kitten" "sitting" = 3 := by decide +kernel

end BuildConfig
