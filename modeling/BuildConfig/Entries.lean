namespace BuildConfig

/-- Keyed entries in insertion order. Every operation here keeps distinct keys distinct, so a table
that starts empty never holds a key twice. -/
abbrev Entries (α : Type) := List (String × α)

namespace Entries

variable {α : Type}

/-- The value of the first entry with the key. -/
def get? : Entries α → String → Option α
  | [], _ => none
  | (name, value) :: rest, key => if name = key then some value else get? rest key

def contains (entries : Entries α) (key : String) : Bool :=
  (get? entries key).isSome

def keys (entries : Entries α) : List String :=
  entries.map Prod.fst

/-- Overwrites the value of a key that is present, at its place, and appends a new one. -/
def insert : Entries α → String → α → Entries α
  | [], key, value => [(key, value)]
  | (name, old) :: rest, key, value =>
    if name = key then (name, value) :: rest else (name, old) :: insert rest key value

/-- Appends a key that is missing and leaves one that is present alone. -/
def insertNew (entries : Entries α) (key : String) (value : α) : Entries α :=
  if contains entries key then entries else entries ++ [(key, value)]

/-- Drops the first entry with the key; the others keep their order. -/
def erase : Entries α → String → Entries α
  | [], _ => []
  | (name, value) :: rest, key => if name = key then rest else (name, value) :: erase rest key

/-- The entries of a list of assignments: the first assignment to a key fixes its place, the last
one its value. -/
def ofList (assignments : List (String × α)) : Entries α :=
  assignments.foldl (fun entries (key, value) => insert entries key value) []

/-- No key is held twice. -/
def Distinct (entries : Entries α) : Prop :=
  (keys entries).Nodup

@[simp] theorem keys_nil : keys ([] : Entries α) = [] := rfl

@[simp] theorem keys_cons (name : String) (value : α) (rest : Entries α) :
    keys ((name, value) :: rest) = name :: keys rest := rfl

theorem get?_eq_none_iff {entries : Entries α} {key : String} :
    get? entries key = none ↔ key ∉ keys entries := by
  induction entries with
  | nil => simp [get?]
  | cons entry rest ih =>
    obtain ⟨name, value⟩ := entry
    by_cases same : name = key
    · simp [get?, same]
    · simp [get?, same, ih, Ne.symm same]

theorem contains_iff_mem {entries : Entries α} {key : String} :
    contains entries key = true ↔ key ∈ keys entries := by
  simp [contains, Option.isSome_iff_ne_none, get?_eq_none_iff]

theorem get?_append (entries more : Entries α) (key : String) :
    get? (entries ++ more) key = (get? entries key).or (get? more key) := by
  induction entries with
  | nil => simp [get?]
  | cons entry rest ih =>
    obtain ⟨name, value⟩ := entry
    by_cases same : name = key <;> simp [get?, same, ih]

@[simp] theorem get?_insert_self (entries : Entries α) (key : String) (value : α) :
    get? (insert entries key value) key = some value := by
  induction entries with
  | nil => simp [insert, get?]
  | cons entry rest ih =>
    obtain ⟨name, old⟩ := entry
    by_cases same : name = key <;> simp [insert, get?, same, ih]

theorem get?_insert_of_ne (entries : Entries α) {key other : String} (value : α)
    (different : key ≠ other) : get? (insert entries key value) other = get? entries other := by
  induction entries with
  | nil => simp [insert, get?, different]
  | cons entry rest ih =>
    obtain ⟨name, old⟩ := entry
    by_cases same : name = key
    · simp [insert, get?, same, different]
    · simp [insert, get?, same, ih]

/-- Overwriting leaves the keys alone, and a new key comes last. -/
theorem keys_insert (entries : Entries α) (key : String) (value : α) :
    keys (insert entries key value) =
      if key ∈ keys entries then keys entries else keys entries ++ [key] := by
  induction entries with
  | nil => simp [insert]
  | cons entry rest ih =>
    obtain ⟨name, old⟩ := entry
    by_cases same : name = key
    · simp [insert, same]
    · by_cases found : key ∈ keys rest <;> simp [insert, same, Ne.symm same, ih, found]

theorem keys_insertNew (entries : Entries α) (key : String) (value : α) :
    keys (insertNew entries key value) =
      if key ∈ keys entries then keys entries else keys entries ++ [key] := by
  by_cases found : key ∈ keys entries
  · simp [insertNew, contains_iff_mem.2 found, found]
  · rw [insertNew, if_neg (mt contains_iff_mem.1 found), if_neg found, keys, List.map_append]
    rfl

theorem keys_erase (entries : Entries α) (key : String) :
    keys (erase entries key) = (keys entries).erase key := by
  induction entries with
  | nil => rfl
  | cons entry rest ih =>
    obtain ⟨name, old⟩ := entry
    by_cases same : name = key <;> simp [erase, same, ih]

theorem get?_erase_of_ne (entries : Entries α) {key other : String} (different : key ≠ other) :
    get? (erase entries key) other = get? entries other := by
  induction entries with
  | nil => rfl
  | cons entry rest ih =>
    obtain ⟨name, old⟩ := entry
    by_cases same : name = key
    · simp [erase, get?, same, different]
    · simp [erase, get?, same, ih]

theorem get?_erase_self {entries : Entries α} (distinct : Distinct entries) (key : String) :
    get? (erase entries key) key = none := by
  rw [get?_eq_none_iff, keys_erase]
  exact distinct.not_mem_erase

theorem Distinct.insert {entries : Entries α} (distinct : Distinct entries) (key : String)
    (value : α) : Distinct (Entries.insert entries key value) := by
  rw [Distinct, keys_insert]
  split
  · exact distinct
  · next missing =>
    exact List.nodup_append.2 ⟨distinct, by simp, fun _ held _ added same => missing (by
      rw [List.mem_singleton.1 added] at same
      exact same ▸ held)⟩

theorem Distinct.insertNew {entries : Entries α} (distinct : Distinct entries) (key : String)
    (value : α) : Distinct (Entries.insertNew entries key value) := by
  have same :
      keys (Entries.insertNew entries key value) = keys (Entries.insert entries key value) := by
    rw [keys_insertNew, keys_insert]
  rw [Distinct, same]
  exact distinct.insert key value

theorem Distinct.erase {entries : Entries α} (distinct : Distinct entries) (key : String) :
    Distinct (Entries.erase entries key) := by
  rw [Distinct, keys_erase]
  exact distinct.sublist List.erase_sublist

end Entries

end BuildConfig
