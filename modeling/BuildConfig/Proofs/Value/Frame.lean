import BuildConfig.Proofs.Value.Edits

namespace BuildConfig

/-- Two tables that differ at one key at most: the other keys have the same order and the same values. -/
structure Entries.SameBeside {α : Type} (key : String) (entries others : Entries α) : Prop where
  lookups : ∀ name ≠ key, Entries.get? others name = Entries.get? entries name
  order : ∀ keeps : String → Bool, keeps key = false →
    (Entries.keys others).filter keeps = (Entries.keys entries).filter keeps

namespace Entries

variable {α : Type} (entries : Entries α) (key : String)

theorem sameBeside_insert (value : α) : SameBeside key entries (insert entries key value) where
  lookups _ different := get?_insert_of_ne entries value (Ne.symm different)
  order := by
    intro keeps hidden
    rw [keys_insert]
    split
    · rfl
    · simp [hidden]

theorem sameBeside_erase : SameBeside key entries (erase entries key) where
  lookups _ different := get?_erase_of_ne entries (Ne.symm different)
  order := by
    intro keeps hidden
    rw [keys_erase]
    induction keys entries with
    | nil => rfl
    | cons name rest ih =>
      by_cases same : name = key
      · subst name
        rw [List.erase_cons_head, List.filter_cons_of_neg (by simp [hidden])]
      · rw [List.erase_cons_tail (by simpa using same), List.filter_cons, List.filter_cons, ih]

end Entries

namespace Value

/-- Two values between which only some keys make a difference: they are equal, or both are maps, and the other keys
have the same order. -/
def SameBut (keeps : String → Bool) (before after : Value) : Prop :=
  SameOutside before after ∧ (Entries.keys after.entries).filter keeps = (Entries.keys before.entries).filter keeps

/-- Between two trees only some places make a difference. At any place that is not inside one of these both hold the
same, or maps whose other keys have the same order. -/
def SameAround (places : List (List String)) (before after : Value) : Prop :=
  ∀ place, (∀ touched ∈ places, ¬touched <+: place) →
    Option.Rel (SameBut fun key => place ++ [key] ∉ places) (before.getPath? place) (after.getPath? place)

theorem SameBut.refl (keeps : String → Bool) (value : Value) : SameBut keeps value value :=
  ⟨.refl value, rfl⟩

theorem SameBut.trans {keeps : String → Bool} {a b c : Value} (first : SameBut keeps a b) (second : SameBut keeps b c) :
    SameBut keeps a c :=
  ⟨first.1.trans second.1, second.2.trans first.2⟩

section Trees

variable {places : List (List String)} {config : Value}

theorem SameAround.refl (places : List (List String)) (config : Value) : SameAround places config config :=
  fun _ _ => rel_self (SameBut.refl _) _

theorem SameAround.trans {a b c : Value} (first : SameAround places a b) (second : SameAround places b c) :
    SameAround places a c :=
  fun place outside => rel_trans (fun _ _ _ => SameBut.trans) (first place outside) (second place outside)

theorem not_prefix_of_deep (deep : ∀ touched ∈ places, 1 < touched.length) {place : List String}
    (shallow : place.length ≤ 1) : ∀ touched ∈ places, ¬touched <+: place := by
  intro touched listed within
  have bound := within.length_le
  have long := deep touched listed
  omega

/-- Where every place lies in a table, the keys at the top stay. -/
theorem SameAround.keys_eq {before after : Value} (around : SameAround places before after)
    (deep : ∀ touched ∈ places, 1 < touched.length) :
    SameOutside before after ∧ Entries.keys after.entries = Entries.keys before.entries := by
  have atRoot := around [] (not_prefix_of_deep deep (Nat.zero_le 1))
  rw [getPath?_nil, getPath?_nil] at atRoot
  cases atRoot with
  | some same =>
    have everyKey : ∀ keys : List String, keys.filter (fun key => [] ++ [key] ∉ places) = keys := by
      refine fun keys => List.filter_eq_self.mpr fun key _ => decide_eq_true fun listed => ?_
      exact Nat.lt_irrefl 1 (deep _ listed)
    refine ⟨same.1, ?_⟩
    rw [← everyKey (Entries.keys before.entries), ← everyKey (Entries.keys after.entries)]
    exact same.2

/-- Where every place lies in a table, the tables keep their other keys. -/
theorem SameAround.get? {before after : Value} (around : SameAround places before after)
    (deep : ∀ touched ∈ places, 1 < touched.length) (table : String) :
    Option.Rel (SameBut fun key => [table, key] ∉ places) (before.get? table) (after.get? table) := by
  have atTable := around [table] (not_prefix_of_deep deep (Nat.le_refl 1))
  rw [getPath?_single, getPath?_single] at atTable
  exact atTable

/-- A change of one key of a map is seen at the places inside of it, and in the keys of this map. -/
theorem rel_insertPath_of_sameBeside {parent place : List String} {key : String} {entries others : Entries Value}
    (held : config.getPath? parent = some (.map entries)) (same : Entries.SameBeside key entries others)
    (outside : ¬parent ++ [key] <+: place) {keeps : String → Bool}
    (hidden : ∀ name, place ++ [name] = parent ++ [key] → keeps name = false) :
    Option.Rel (SameBut keeps) (config.getPath? place) ((config.insertPath parent (.map others)).getPath? place) := by
  induction parent generalizing config place with
  | nil =>
    rw [getPath?_nil, Option.some.injEq] at held
    subst config
    rw [insertPath]
    cases place with
    | nil => exact .some ⟨Or.inr ⟨rfl, rfl⟩, same.order keeps (hidden key rfl)⟩
    | cons name more =>
      have different : name ≠ key := by
        rintro rfl
        exact outside ⟨more, rfl⟩
      rw [getPath?_cons, getPath?_cons, get?_map, get?_map, same.lookups name different]
      exact rel_self (SameBut.refl keeps) _
  | cons step rest ih =>
    rw [getPath?_cons] at held
    obtain ⟨child, atStep, below⟩ := Option.bind_eq_some_iff.mp held
    rw [insertPath, atStep, Option.getD_some]
    cases place with
    | nil =>
      -- the key of the path is there already, so that no key is new
      have present : step ∈ Entries.keys config.entries := Entries.mem_keys_iff.mpr ⟨child, atStep⟩
      refine .some ⟨Or.inr ⟨isMap_of_get?_eq_some atStep, rfl⟩, ?_⟩
      rw [entries_map, Entries.keys_insert, if_pos present]
    | cons name more =>
      rw [getPath?_cons, getPath?_cons, get?_map, Entries.get?_insert]
      by_cases here : step = name
      · subst name
        have deeper : ¬rest ++ [key] <+: more := fun inside => outside (List.cons_prefix_cons.mpr ⟨rfl, inside⟩)
        rw [atStep, if_pos rfl]
        exact ih below deeper fun name same => hidden name (by rw [List.cons_append, same, List.cons_append])
      · rw [if_neg here]
        exact rel_self (SameBut.refl keeps) _

theorem sameAround_insertPath_of_sameBeside {parent : List String} {key : String} {entries others : Entries Value}
    (touched : parent ++ [key] ∈ places) (held : config.getPath? parent = some (.map entries))
    (same : Entries.SameBeside key entries others) :
    SameAround places config (config.insertPath parent (.map others)) := by
  intro place outside
  refine rel_insertPath_of_sameBeside held same (outside _ touched) fun name atKey => ?_
  rw [atKey]
  simpa using touched

/-- What is put under a key of a map that is there makes no difference but at this key. -/
theorem sameAround_insertPath {parent : List String} {key : String} {entries : Entries Value}
    (touched : parent ++ [key] ∈ places) (held : config.getPath? parent = some (.map entries)) (new : Value) :
    SameAround places config (config.insertPath (parent ++ [key]) new) := by
  rw [insertPath_concat held]
  exact sameAround_insertPath_of_sameBeside touched held (Entries.sameBeside_insert entries key new)

/-- What is taken out of a map makes no difference but at its key. -/
theorem sameAround_takePath? {path : List String} {taken left : Value} (touched : path ∈ places)
    (takes : config.takePath? path = some (taken, left)) : SameAround places config left := by
  obtain ⟨parent, key, rfl⟩ := (List.eq_nil_or_concat' path).resolve_left (ne_nil_of_takePath? takes)
  obtain ⟨entries, held, _, rfl⟩ := takePath?_concat_eq_some_iff.mp takes
  exact sameAround_insertPath_of_sameBeside touched held (Entries.sameBeside_erase entries key)

end Trees

end Value

end BuildConfig
