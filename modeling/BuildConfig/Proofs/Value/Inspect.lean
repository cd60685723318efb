import BuildConfig.Proofs.Number.Text
import BuildConfig.Value.Inspect

namespace BuildConfig

namespace Value

/-- A tree without patterns and functions. -/
inductive IsData : Value → Prop
  | null : IsData .null
  | bool {value : Bool} : IsData (.bool value)
  | number {value : Number} : IsData (.number value)
  | string {text : String} : IsData (.string text)
  | array {items : List Value} (inside : ∀ item ∈ items, IsData item) : IsData (.array items)
  | map {entries : Entries Value} (inside : ∀ key value, (key, value) ∈ entries → IsData value) :
      IsData (.map entries)

section Quoted

/-- A character of a quoted text. -/
def quoteChar (c : Char) : List Char :=
  if c = '\\' ∨ c = '\'' then ['\\', c] else [c]

theorem toList_quote (text : String) : (quote text).toList = '\'' :: (text.toList.flatMap quoteChar ++ ['\'']) := by
  simp only [quote, String.toList_append, String.toList_ofList]
  rfl

theorem quoteChar_append_inj {c d : Char} {rest more : List Char}
    (same : quoteChar c ++ rest = quoteChar d ++ more) : c = d ∧ rest = more := by
  unfold quoteChar at same
  split at same <;> split at same
  · simpa using same
  · rename_i plain
    simp only [List.cons_append, List.nil_append, List.cons.injEq] at same
    exact absurd (Or.inl same.1.symm) plain
  · rename_i plain _
    simp only [List.cons_append, List.nil_append, List.cons.injEq] at same
    exact absurd (Or.inl same.1) plain
  · simpa using same

/-- A quote that is not escaped comes only at the end. -/
theorem quoteChar_append_ne (c : Char) (rest more : List Char) : quoteChar c ++ rest ≠ '\'' :: more := by
  intro same
  unfold quoteChar at same
  split at same
  · simp at same
  · rename_i plain
    simp only [List.cons_append, List.nil_append, List.cons.injEq] at same
    exact plain (Or.inr same.1)

theorem flatMap_quoteChar_inj {cs ds rest more : List Char}
    (same : cs.flatMap quoteChar ++ '\'' :: rest = ds.flatMap quoteChar ++ '\'' :: more) : cs = ds ∧ rest = more := by
  induction cs generalizing ds with
  | nil =>
    cases ds with
    | nil => exact ⟨rfl, (List.cons.inj same).2⟩
    | cons d ds =>
      rw [List.flatMap_cons, List.append_assoc] at same
      exact absurd same.symm (quoteChar_append_ne _ _ _)
  | cons c cs ih =>
    cases ds with
    | nil =>
      rw [List.flatMap_cons, List.append_assoc] at same
      exact absurd same (quoteChar_append_ne _ _ _)
    | cons d ds =>
      rw [List.flatMap_cons, List.flatMap_cons, List.append_assoc, List.append_assoc] at same
      obtain ⟨rfl, later⟩ := quoteChar_append_inj same
      obtain ⟨rfl, rests⟩ := ih later
      exact ⟨rfl, rests⟩

/-- A quoted text is told apart from what follows it, whatever that is. -/
theorem quote_append_inj {text other : String} {rest more : List Char}
    (same : (quote text).toList ++ rest = (quote other).toList ++ more) : text = other ∧ rest = more := by
  rw [toList_quote, toList_quote, List.cons_append, List.cons_append, List.append_assoc, List.append_assoc] at same
  obtain ⟨texts, rests⟩ := flatMap_quoteChar_inj (List.cons.inj same).2
  exact ⟨String.toList_inj.mp texts, rests⟩

end Quoted

section Keys

/-- The characters of a key that needs no quotes. -/
def isIdentifierChar (c : Char) : Bool :=
  isIdentifierStart c || c.isDigit

theorem exists_identifier {key : String} (identifier : isIdentifier key = true) : ∃ first rest,
    key.toList = first :: rest ∧ isIdentifierStart first = true ∧ ∀ c ∈ key.toList, isIdentifierChar c = true := by
  unfold isIdentifier at identifier
  cases chars : key.toList with
  | nil =>
    rw [chars] at identifier
    cases identifier
  | cons first rest =>
    rw [chars] at identifier
    simp only [Bool.and_eq_true, List.all_eq_true] at identifier
    refine ⟨first, rest, rfl, identifier.1, fun c mem => ?_⟩
    rcases List.mem_cons.mp mem with rfl | later
    · rw [isIdentifierChar, identifier.1, Bool.true_or]
    · exact identifier.2 c later

theorem identifier_append_ne_quote {key other : String} (identifier : isIdentifier key = true) (rest more : List Char) :
    key.toList ++ rest ≠ (quote other).toList ++ more := by
  intro same
  obtain ⟨first, later, chars, start, _⟩ := exists_identifier identifier
  rw [chars, toList_quote] at same
  rw [(List.cons.inj same).1] at start
  exact absurd start (by decide)

/-- A key is told apart from the colon after it. -/
theorem inspectKey_append_inj {key other : String} {rest more : List Char}
    (same : (inspectKey key).toList ++ ':' :: rest = (inspectKey other).toList ++ ':' :: more) :
    key = other ∧ rest = more := by
  have tail {first second : List Char} (same : ':' :: first = ':' :: second) : first = second := (List.cons.inj same).2
  unfold inspectKey at same
  split at same <;> split at same
  · rename_i identifier otherIdentifier
    obtain ⟨_, _, _, _, all⟩ := exists_identifier identifier
    obtain ⟨_, _, _, _, others⟩ := exists_identifier otherIdentifier
    obtain ⟨keys, rests⟩ := eq_of_append_eq all others (stopsAt_cons rfl) (stopsAt_cons rfl) same
    exact ⟨String.toList_inj.mp keys, tail rests⟩
  · rename_i identifier _
    exact absurd same (identifier_append_ne_quote identifier _ _)
  · rename_i _ identifier
    exact absurd same.symm (identifier_append_ne_quote identifier _ _)
  · obtain ⟨keys, rests⟩ := quote_append_inj same
    exact ⟨keys, tail rests⟩

end Keys

section Lists

variable {α : Type} {text : α → List Char} {among : α → Prop} {opening closing : Char} {as bs : List α}
  {rest more : List Char}

/-- What may follow a value: nothing, a comma, or the blank before a closing bracket. -/
def Ends (rest : List Char) : Prop :=
  ∀ c ∈ rest.head?, c = ',' ∨ c = ' '

/-- The text of `a` is told apart from the others, and from what follows. -/
def Legible (text : α → List Char) (among : α → Prop) (a : α) : Prop :=
  ∀ b rest more, among b → Ends rest → Ends more → text a ++ rest = text b ++ more → a = b ∧ rest = more

theorem ends_cons {c : Char} (stop : c = ',' ∨ c = ' ') : Ends (c :: rest) := by
  intro next head
  cases head
  exact stop

/-- Further items, each after a comma. -/
def furtherText (text : α → List Char) (items : List α) : List Char :=
  items.flatMap fun item => ',' :: ' ' :: text item

theorem ends_furtherText (items : List α) (rest : List Char) : Ends (furtherText text items ++ ' ' :: rest) := by
  cases items with
  | nil => exact ends_cons (Or.inr rfl)
  | cons item items => exact ends_cons (Or.inl rfl)

theorem furtherText_append_inj (legible : ∀ a ∈ as, Legible text among a) (data : ∀ b ∈ bs, among b)
    (same : furtherText text as ++ ' ' :: rest = furtherText text bs ++ ' ' :: more) : as = bs ∧ rest = more := by
  induction as generalizing bs with
  | nil =>
    cases bs with
    | nil => exact ⟨rfl, (List.cons.inj same).2⟩
    | cons b bs => exact absurd (List.cons.inj same).1 (by decide)
  | cons a as ih =>
    cases bs with
    | nil => exact absurd (List.cons.inj same).1 (by decide)
    | cons b bs =>
      rw [List.forall_mem_cons] at legible data
      simp only [furtherText, List.flatMap_cons, List.cons_append, List.append_assoc, List.cons.injEq, true_and] at same
      obtain ⟨rfl, later⟩ := legible.1 b _ _ data.1 (ends_furtherText as rest) (ends_furtherText bs more) same
      obtain ⟨rfl, rests⟩ := ih legible.2 data.2 later
      exact ⟨rfl, rests⟩

/-- Items on one line between brackets. -/
def listText (opening closing : Char) (text : α → List Char) : List α → List Char
  | [] => [opening, closing]
  | item :: items => opening :: ' ' :: (text item ++ (furtherText text items ++ [' ', closing]))

theorem listText_append_inj (visible : closing ≠ ' ') (legible : ∀ a ∈ as, Legible text among a)
    (data : ∀ b ∈ bs, among b)
    (same : listText opening closing text as ++ rest = listText opening closing text bs ++ more) :
    as = bs ∧ rest = more := by
  cases as with
  | nil =>
    cases bs with
    | nil => simpa [listText] using same
    | cons b bs =>
      -- after the opening bracket the one closes and the other has a blank
      simp only [listText, List.cons_append, List.cons.injEq] at same
      exact absurd same.2.1 visible
  | cons a as =>
    cases bs with
    | nil =>
      simp only [listText, List.cons_append, List.cons.injEq] at same
      exact absurd same.2.1.symm visible
    | cons b bs =>
      rw [List.forall_mem_cons] at legible data
      simp only [listText, List.cons_append, List.append_assoc, List.nil_append, List.cons.injEq, true_and] at same
      obtain ⟨rfl, later⟩ := legible.1 b _ _ data.1 (ends_furtherText as _) (ends_furtherText bs _) same
      obtain ⟨rfl, rests⟩ := furtherText_append_inj legible.2 data.2 later
      exact ⟨rfl, (List.cons.inj rests).2⟩

end Lists

section Trees

def chars (value : Value) : List Char :=
  value.inspect.toList

def entryChars (entry : String × Value) : List Char :=
  (inspectKey entry.1).toList ++ ':' :: ' ' :: entry.2.chars

theorem toList_inspectItems (items : List Value) : (inspectItems items).toList = furtherText chars items := by
  induction items with
  | nil => rfl
  | cons item items ih =>
    rw [inspectItems, String.toList_append, String.toList_append, ih]
    rfl

theorem toList_inspectEntries (entries : Entries Value) :
    (inspectEntries entries).toList = furtherText entryChars entries := by
  induction entries with
  | nil => rfl
  | cons entry entries ih =>
    simp only [inspectEntries, String.toList_append, ih, furtherText, List.flatMap_cons, entryChars, chars]
    simp

theorem chars_array (items : List Value) : (Value.array items).chars = listText '[' ']' chars items := by
  cases items with
  | nil => rfl
  | cons item items =>
    simp only [chars, inspect, String.toList_append, toList_inspectItems, listText]
    simp

theorem chars_map (entries : Entries Value) : (Value.map entries).chars = listText '{' '}' entryChars entries := by
  cases entries with
  | nil => rfl
  | cons entry entries =>
    simp only [chars, inspect, String.toList_append, toList_inspectEntries, listText, entryChars]
    simp

/-- An entry is told apart when its value is. -/
theorem legible_entry {among : Value → Prop} {key : String} {value : Value} (legible : Legible chars among value) :
    Legible entryChars (fun entry => among entry.2) (key, value) := by
  intro ⟨other, child⟩ rest more data ends otherEnds same
  simp only [entryChars, List.append_assoc, List.cons_append] at same
  obtain ⟨rfl, later⟩ := inspectKey_append_inj same
  obtain ⟨rfl, rests⟩ := legible child rest more data ends otherEnds (List.cons.inj later).2
  exact ⟨rfl, rests⟩

/-- The kind of a value, by the first character of its text. -/
def kindOfLead : Char → String
  | 'n' => "null"
  | 't' | 'f' => "boolean"
  | '\'' => "string"
  | '[' => "array"
  | '{' => "object"
  | _ => "number"

theorem kindOfLead_number {lead : Char} (numeric : lead = '-' ∨ lead.isDigit = true) : kindOfLead lead = "number" := by
  rcases numeric with rfl | digit
  · rfl
  · unfold kindOfLead
    split <;> first | rfl | cases digit

theorem IsData.exists_lead {value : Value} (data : value.IsData) :
    ∃ lead rest, value.chars = lead :: rest ∧ kindOfLead lead = value.kindName := by
  cases data with
  | null => exact ⟨'n', _, rfl, rfl⟩
  | @bool value => cases value <;> exact ⟨_, _, rfl, rfl⟩
  | @number number =>
    obtain ⟨lead, rest, chars, numeric⟩ := number.exists_toList_text
    exact ⟨lead, rest, chars, kindOfLead_number numeric⟩
  | @string text => exact ⟨'\'', _, toList_quote text, rfl⟩
  | @array items =>
    rw [chars_array]
    cases items <;> exact ⟨'[', _, rfl, rfl⟩
  | @map entries =>
    rw [chars_map]
    cases entries <;> exact ⟨'{', _, rfl, rfl⟩

theorem IsData.kindName_eq {a b : Value} {rest more : List Char} (data : a.IsData) (other : b.IsData)
    (same : a.chars ++ rest = b.chars ++ more) : a.kindName = b.kindName := by
  obtain ⟨lead, _, chars, kind⟩ := data.exists_lead
  obtain ⟨otherLead, _, otherChars, otherKind⟩ := other.exists_lead
  rw [chars, otherChars] at same
  rw [← kind, ← otherKind, (List.cons.inj same).1]

theorem stopsAt_of_ends {rest : List Char} (ends : Ends rest) : StopsAt Numeral.isCharacter rest := by
  intro c head
  rcases ends c head with rfl | rfl <;> decide

theorem number_append_inj {a b : Number} {rest more : List Char} (ends : Ends rest) (otherEnds : Ends more)
    (same : a.text.toList ++ rest = b.text.toList ++ more) : a = b ∧ rest = more := by
  obtain ⟨texts, rests⟩ := eq_of_append_eq (fun _ => Number.isCharacter_of_mem_text)
    (fun _ => Number.isCharacter_of_mem_text) (stopsAt_of_ends ends) (stopsAt_of_ends otherEnds) same
  exact ⟨Number.text_injective (String.toList_inj.mp texts), rests⟩

theorem bool_append_inj {a b : Bool} {rest more : List Char}
    (same : (Value.bool a).chars ++ rest = (Value.bool b).chars ++ more) : a = b ∧ rest = more := by
  cases a <;> cases b <;> simp_all [chars, inspect]

/-- The text of a tree is told apart from that of every other. -/
theorem IsData.legible {value : Value} (data : value.IsData) : Legible chars IsData value := by
  induction data with
  | null =>
    intro b rest more other _ _ same
    -- the first character leaves only values of the same kind
    have kinds := IsData.null.kindName_eq other same
    cases other with
    | null => exact ⟨rfl, List.append_cancel_left same⟩
    | bool | number | string | array | map => simp [kindName] at kinds
  | bool =>
    intro b rest more other _ _ same
    have kinds := IsData.bool.kindName_eq other same
    cases other with
    | bool =>
      obtain ⟨rfl, rests⟩ := bool_append_inj same
      exact ⟨rfl, rests⟩
    | null | number | string | array | map => simp [kindName] at kinds
  | number =>
    intro b rest more other ends otherEnds same
    have kinds := IsData.number.kindName_eq other same
    cases other with
    | number =>
      obtain ⟨rfl, rests⟩ := number_append_inj ends otherEnds same
      exact ⟨rfl, rests⟩
    | null | bool | string | array | map => simp [kindName] at kinds
  | string =>
    intro b rest more other _ _ same
    have kinds := IsData.string.kindName_eq other same
    cases other with
    | string =>
      obtain ⟨rfl, rests⟩ := quote_append_inj same
      exact ⟨rfl, rests⟩
    | null | bool | number | array | map => simp [kindName] at kinds
  | array inside ih =>
    intro b rest more other _ _ same
    have kinds := (IsData.array inside).kindName_eq other same
    cases other with
    | array otherInside =>
      rw [chars_array, chars_array] at same
      obtain ⟨rfl, rests⟩ := listText_append_inj (by decide) ih otherInside same
      exact ⟨rfl, rests⟩
    | null | bool | number | string | map => simp [kindName] at kinds
  | map inside ih =>
    intro b rest more other _ _ same
    have kinds := (IsData.map inside).kindName_eq other same
    cases other with
    | map otherInside =>
      rw [chars_map, chars_map] at same
      obtain ⟨rfl, rests⟩ := listText_append_inj (by decide)
        (fun (key, value) held => legible_entry (ih key value held))
        (fun (key, value) held => otherInside key value held) same
      exact ⟨rfl, rests⟩
    | null | bool | number | string | array => simp [kindName] at kinds

/-- The text on one line identifies a tree without patterns and functions, down to the order of its keys. -/
theorem inspect_eq_inspect_iff {a b : Value} (data : a.IsData) (other : b.IsData) : a.inspect = b.inspect ↔ a = b := by
  constructor
  · intro same
    have texts : a.chars ++ [] = b.chars ++ [] := by rw [chars, chars, same]
    exact (data.legible b [] [] other (by nofun) (by nofun) texts).1
  · intro same
    rw [same]

/-- Quotes and commas in a string are not taken for those between strings. -/
theorem inspect_eq_inspect_iff_quotes :
    let one : Value := .map [("k", .array [.string "a', 'b"])]
    let two : Value := .map [("k", .array [.string "a", .string "b"])]
    one.IsData ∧ two.IsData ∧ one.inspect ≠ two.inspect := by
  intro one two
  have oneData : one.IsData := .map fun key value held => by
    cases List.mem_singleton.mp held
    exact .array (by simp [IsData.string])
  have twoData : two.IsData := .map fun key value held => by
    cases List.mem_singleton.mp held
    exact .array (by simp [IsData.string])
  refine ⟨oneData, twoData, fun same => ?_⟩
  have trees := (inspect_eq_inspect_iff oneData twoData).mp same
  simp [one, two] at trees

end Trees

end Value

end BuildConfig
