import BuildConfig.Entries
import BuildConfig.Proofs.Related

namespace BuildConfig.Entries

variable {α β : Type}

theorem get?_insert (entries : Entries α) (key other : String) (value : α) :
    get? (insert entries key value) other = if key = other then some value else get? entries other := by
  by_cases same : key = other
  · subst other
    rw [if_pos rfl, get?_insert_self]
  · rw [if_neg same, get?_insert_of_ne entries value same]

theorem mem_of_get? {entries : Entries α} {key : String} {value : α}
    (found : get? entries key = some value) : (key, value) ∈ entries := by
  induction entries with
  | nil => simp [get?] at found
  | cons entry rest ih =>
    obtain ⟨name, held⟩ := entry
    by_cases same : name = key
    · subst name
      simp only [get?, if_true, Option.some.injEq] at found
      simp [found]
    · simp only [get?, if_neg same] at found
      exact List.mem_cons_of_mem _ (ih found)

theorem ne_of_get? {entries : Entries α} {key other : String} {value : α} (held : get? entries key = some value)
    (missing : get? entries other = none) : key ≠ other := by
  rintro rfl
  rw [held] at missing
  cases missing

theorem mem_keys_of_mem {entries : Entries α} {key : String} {value : α}
    (held : (key, value) ∈ entries) : key ∈ keys entries :=
  List.mem_map.mpr ⟨(key, value), held, rfl⟩

theorem mem_keys_iff {entries : Entries α} {key : String} :
    key ∈ keys entries ↔ ∃ value, get? entries key = some value := by
  rw [← Option.isSome_iff_exists, ← contains_iff_mem, contains]

theorem distinct_nil : Distinct ([] : Entries α) :=
  List.nodup_nil

theorem Distinct.tail {entry : String × α} {rest : Entries α} (distinct : Distinct (entry :: rest)) :
    Distinct rest :=
  (List.nodup_cons.mp distinct).2

/-- The first key of a table has no second place in it. -/
theorem Distinct.get?_tail {key : String} {value : α} {rest : Entries α}
    (distinct : Distinct ((key, value) :: rest)) : get? rest key = none :=
  get?_eq_none_iff.mpr (List.nodup_cons.mp distinct).1

theorem Distinct.get?_of_mem {entries : Entries α} {key : String} {value : α}
    (distinct : Distinct entries) (held : (key, value) ∈ entries) : get? entries key = some value := by
  induction entries with
  | nil => simp at held
  | cons entry rest ih =>
    obtain ⟨name, first⟩ := entry
    rcases List.mem_cons.mp held with here | later
    · cases here
      simp [get?]
    · have different : name ≠ key := by
        rintro rfl
        exact (List.nodup_cons.mp distinct).1 (mem_keys_of_mem later)
      simpa only [get?, if_neg different] using ih distinct.tail later

theorem Distinct.mem_iff {entries : Entries α} (distinct : Distinct entries) {key : String} {value : α} :
    (key, value) ∈ entries ↔ get? entries key = some value :=
  ⟨distinct.get?_of_mem, mem_of_get?⟩

/-- Filtering by keys only hides the keys that are filtered out. -/
theorem get?_filter (entries : Entries α) (accepts : String → Bool) (key : String) :
    get? (entries.filter fun (name, _) => accepts name) key =
      if accepts key then get? entries key else none := by
  induction entries with
  | nil => simp [get?]
  | cons entry rest ih =>
    obtain ⟨name, value⟩ := entry
    by_cases same : name = key
    · subst name
      by_cases kept : accepts key
      · simp [kept, get?]
      · simp only [List.filter_cons, kept, get?, if_true, Bool.false_eq_true, if_false, ih]
    · by_cases kept : accepts name
      · simp [kept, get?, same, ih]
      · simp [kept, get?, same, ih]

theorem get?_map (entries : Entries α) (change : α → β) (key : String) :
    get? (entries.map fun (name, value) => (name, change value)) key = (get? entries key).map change := by
  induction entries with
  | nil => rfl
  | cons entry rest ih =>
    obtain ⟨name, value⟩ := entry
    by_cases same : name = key <;> simp [get?, same, ih]

theorem keys_map (entries : Entries α) (change : α → β) :
    keys (entries.map fun (name, value) => (name, change value)) = keys entries := by
  simp [keys, Function.comp_def]

theorem Distinct.filter {entries : Entries α} (distinct : Distinct entries) (accepts : String × α → Bool) :
    Distinct (entries.filter accepts) :=
  List.Nodup.sublist (List.Sublist.map _ List.filter_sublist) distinct

theorem insert_of_missing {entries : Entries α} {key : String} (missing : get? entries key = none) (value : α) :
    insert entries key value = entries ++ [(key, value)] := by
  induction entries with
  | nil => rfl
  | cons entry rest ih =>
    obtain ⟨name, old⟩ := entry
    by_cases same : name = key
    · simp [get?, same] at missing
    · rw [get?, if_neg same] at missing
      rw [insert, if_neg same, ih missing, List.cons_append]

theorem insert_of_get? {entries : Entries α} {key : String} {value : α} (found : get? entries key = some value) :
    insert entries key value = entries := by
  induction entries with
  | nil => cases found
  | cons entry rest ih =>
    obtain ⟨name, held⟩ := entry
    by_cases same : name = key
    · rw [get?, if_pos same] at found
      rw [insert, if_pos same, Option.some.inj found]
    · rw [get?, if_neg same] at found
      rw [insert, if_neg same, ih found]

/-- Of two assignments to one key the later counts. -/
theorem insert_insert_self (entries : Entries α) (key : String) (value new : α) :
    insert (insert entries key value) key new = insert entries key new := by
  induction entries with
  | nil => simp [insert]
  | cons entry rest ih =>
    obtain ⟨name, old⟩ := entry
    by_cases same : name = key
    · simp [insert, same]
    · simp [insert, same, ih]

/-- Assignments to different keys can change places, as long as no more than one of the keys is new. -/
theorem insert_insert_comm {entries : Entries α} {key other : String} (different : key ≠ other)
    (held : (get? entries key).isSome = true) (value new : α) :
    insert (insert entries key value) other new = insert (insert entries other new) key value := by
  induction entries with
  | nil => cases held
  | cons entry rest ih =>
    obtain ⟨name, old⟩ := entry
    by_cases same : name = key
    · subst name
      simp [insert, different]
    · rw [get?, if_neg same] at held
      by_cases sameOther : name = other
      · subst name
        simp [insert, same]
      · simp [insert, same, sameOther, ih held]

theorem erase_insert_of_ne (entries : Entries α) {key other : String} (different : key ≠ other) (value : α) :
    erase (insert entries key value) other = insert (erase entries other) key value := by
  induction entries with
  | nil => simp [insert, erase, different]
  | cons entry rest ih =>
    obtain ⟨name, old⟩ := entry
    by_cases same : name = key
    · subst name
      simp [insert, erase, different]
    · by_cases sameOther : name = other
      · subst name
        simp [insert, erase, same]
      · simp [insert, erase, same, sameOther, ih]

/-- Assignments made one after the other to a table that need not be empty. -/
def assign (entries : Entries α) (assignments : List (String × α)) : Entries α :=
  assignments.foldl (fun entries (key, value) => insert entries key value) entries

@[simp] theorem assign_nil (entries : Entries α) : assign entries [] = entries := rfl

@[simp] theorem assign_cons (entries : Entries α) (key : String) (value : α) (rest : List (String × α)) :
    assign entries ((key, value) :: rest) = assign (insert entries key value) rest := rfl

theorem mem_insert_cases {entries : Entries α} {key : String} {value : α} {entry : String × α}
    (held : entry ∈ insert entries key value) : entry = (key, value) ∨ entry ∈ entries := by
  induction entries with
  | nil => simpa [insert] using held
  | cons first rest ih =>
    obtain ⟨name, old⟩ := first
    by_cases same : name = key
    · subst name
      simp only [insert, if_true, List.mem_cons] at held
      exact held.imp_right (List.mem_cons_of_mem _)
    · simp only [insert, if_neg same, List.mem_cons] at held
      rcases held with here | later
      · exact Or.inr (here ▸ List.mem_cons_self ..)
      · exact (ih later).imp_right (List.mem_cons_of_mem _)

theorem perm_erase {entries : Entries α} {key : String} {value : α} (found : get? entries key = some value) :
    entries.Perm ((key, value) :: erase entries key) := by
  induction entries with
  | nil => cases found
  | cons entry rest ih =>
    obtain ⟨name, held⟩ := entry
    by_cases same : name = key
    · rw [get?, if_pos same] at found
      rw [erase, if_pos same, Option.some.inj found, same]
    · rw [get?, if_neg same] at found
      rw [erase, if_neg same]
      exact ((ih found).cons _).trans (.swap _ _ _)

theorem mem_of_mem_erase {entries : Entries α} {key : String} {entry : String × α}
    (held : entry ∈ erase entries key) : entry ∈ entries := by
  induction entries with
  | nil => cases held
  | cons first rest ih =>
    obtain ⟨name, old⟩ := first
    by_cases same : name = key
    · rw [erase, if_pos same] at held
      exact List.mem_cons_of_mem _ held
    · rw [erase, if_neg same] at held
      rcases List.mem_cons.mp held with rfl | later
      · exact List.mem_cons_self ..
      · exact List.mem_cons_of_mem _ (ih later)

/-- Whatever a table holds after assignments was assigned or has been there before. -/
theorem mem_assign_cases {entries : Entries α} {assignments : List (String × α)} {entry : String × α}
    (held : entry ∈ assign entries assignments) : entry ∈ assignments ∨ entry ∈ entries := by
  induction assignments generalizing entries with
  | nil => exact Or.inr held
  | cons assignment rest ih =>
    obtain ⟨key, value⟩ := assignment
    rcases ih held with later | before
    · exact Or.inl (List.mem_cons_of_mem _ later)
    · rcases mem_insert_cases before with here | older
      · exact Or.inl (here ▸ List.mem_cons_self ..)
      · exact Or.inr older

theorem mem_keys_insert {entries : Entries α} {key other : String} {value : α} :
    other ∈ keys (insert entries key value) ↔ other = key ∨ other ∈ keys entries := by
  rw [keys_insert]
  split
  · rename_i present
    exact ⟨Or.inr, fun either => either.elim (fun same => same ▸ present) id⟩
  · rw [List.mem_append, List.mem_singleton, or_comm]

theorem mem_keys_assign {entries : Entries α} {assignments : List (String × α)} {key : String} :
    key ∈ keys (assign entries assignments) ↔ key ∈ keys assignments ∨ key ∈ keys entries := by
  induction assignments generalizing entries with
  | nil => simp
  | cons assignment rest ih =>
    obtain ⟨name, value⟩ := assignment
    rw [assign_cons, ih, mem_keys_insert, keys_cons, List.mem_cons, or_left_comm, or_assoc]

theorem Distinct.assign {entries : Entries α} (distinct : Distinct entries)
    (assignments : List (String × α)) : Distinct (entries.assign assignments) := by
  induction assignments generalizing entries with
  | nil => exact distinct
  | cons assignment rest ih => exact ih (distinct.insert assignment.1 assignment.2)

theorem keys_perm_of_lookups {entries others : Entries α} (distinct : Distinct entries)
    (distinctOthers : Distinct others)
    (agree : ∀ key, (get? entries key).isSome = (get? others key).isSome) :
    (keys entries).Perm (keys others) := by
  rw [List.perm_ext_iff_of_nodup distinct distinctOthers]
  intro key
  rw [← contains_iff_mem, ← contains_iff_mem, contains, contains, agree key]

theorem Distinct.nodup {entries : Entries α} (distinct : Distinct entries) : entries.Nodup :=
  List.Pairwise.of_map _ (fun _ _ different same => different (congrArg Prod.fst same)) distinct

/-- Two tables of which every look-up gives the same differ in their order alone. -/
theorem perm_of_lookups {entries others : Entries α} (distinct : Distinct entries) (distinctOthers : Distinct others)
    (agree : ∀ key, get? entries key = get? others key) : entries.Perm others := by
  rw [List.perm_ext_iff_of_nodup distinct.nodup distinctOthers.nodup]
  rintro ⟨key, value⟩
  rw [distinct.mem_iff, distinctOthers.mem_iff, agree key]

theorem Distinct.perm {entries others : Entries α} (distinct : Distinct entries) (perm : entries.Perm others) :
    Distinct others :=
  (perm.map Prod.fst).nodup_iff.mp distinct

theorem Distinct.get?_eq_of_perm {entries others : Entries α} (distinct : Distinct entries)
    (perm : entries.Perm others) (key : String) : get? entries key = get? others key := by
  apply Option.ext
  intro value
  rw [← distinct.mem_iff, ← (distinct.perm perm).mem_iff, perm.mem_iff]

/-- The table of what each value is made into, if all can be made. -/
def makeEach {ε : Type} (make : α → Except ε β) (entries : Entries α) : Except ε (Entries β) :=
  entries.mapM fun entry => (make entry.2).map fun value => (entry.1, value)

theorem makeEach_cons_eq_ok_iff {ε : Type} {make : α → Except ε β} {key : String} {source : α} {rest : Entries α}
    {made : Entries β} :
    makeEach make ((key, source) :: rest) = .ok made ↔
      ∃ value others, make source = .ok value ∧ rest.makeEach make = .ok others ∧ (key, value) :: others = made := by
  rw [makeEach, mapM_cons_eq_ok_iff]
  constructor
  · rintro ⟨first, others, makesFirst, makesOthers, rfl⟩
    obtain ⟨value, makesValue, rfl⟩ := map_eq_ok_iff.mp makesFirst
    exact ⟨value, others, makesValue, makesOthers, rfl⟩
  · rintro ⟨value, others, makesValue, makesOthers, rfl⟩
    exact ⟨(key, value), others, map_eq_ok_iff.mpr ⟨value, makesValue, rfl⟩, makesOthers, rfl⟩

theorem mem_of_makeEach {ε : Type} {make : α → Except ε β} {entries : Entries α} {made : Entries β}
    (makes : entries.makeEach make = .ok made) :
    ∀ key value, (key, value) ∈ made → ∃ source, (key, source) ∈ entries ∧ make source = .ok value := by
  intro key value held
  obtain ⟨⟨name, source⟩, listed, makesEntry⟩ := mem_of_mapM_eq_ok makes (key, value) held
  obtain ⟨_, makesValue, same⟩ := map_eq_ok_iff.mp makesEntry
  cases same
  exact ⟨source, listed, makesValue⟩

theorem keys_makeEach {ε : Type} {make : α → Except ε β} {entries : Entries α} {made : Entries β}
    (makes : entries.makeEach make = .ok made) : keys made = keys entries := by
  induction entries generalizing made with
  | nil =>
    cases makes
    rfl
  | cons entry rest ih =>
    obtain ⟨key, source⟩ := entry
    obtain ⟨value, others, _, makesOthers, rfl⟩ := makeEach_cons_eq_ok_iff.mp makes
    rw [keys_cons, keys_cons, ih makesOthers]

/-- What is made is found where its source is. -/
theorem get?_makeEach {ε : Type} {make : α → Except ε β} {entries : Entries α} {made : Entries β}
    (makes : entries.makeEach make = .ok made) (key : String) :
    (get? entries key).map make = (get? made key).map .ok := by
  induction entries generalizing made with
  | nil =>
    cases makes
    rfl
  | cons entry rest ih =>
    obtain ⟨name, source⟩ := entry
    obtain ⟨value, others, makesValue, makesOthers, rfl⟩ := makeEach_cons_eq_ok_iff.mp makes
    by_cases same : name = key
    · rw [get?, get?, if_pos same, if_pos same, Option.map_some, Option.map_some, makesValue]
    · rw [get?, get?, if_neg same, if_neg same, ih makesOthers]

theorem makeEach_append {ε : Type} {make : α → Except ε β} {entries more : Entries α} {made others : Entries β}
    (makes : entries.makeEach make = .ok made) (makesMore : more.makeEach make = .ok others) :
    makeEach make (entries ++ more) = .ok (made ++ others) := by
  rw [makeEach] at makes makesMore ⊢
  rw [List.mapM_append, makes, makesMore]
  rfl

theorem makeEach_map {γ ε : Type} (make : β → Except ε γ) (change : α → β) (entries : Entries α) :
    makeEach make (entries.map fun (key, value) => (key, change value)) =
      entries.makeEach fun value => make (change value) := by
  rw [makeEach, List.mapM_map]
  rfl

theorem makeEach_congr {ε : Type} {make other : α → Except ε β} {entries : Entries α}
    (same : ∀ key value, (key, value) ∈ entries → make value = other value) :
    entries.makeEach make = entries.makeEach other :=
  mapM_congr fun (key, value) held => by rw [same key value held]

theorem makeEach_map_eq_ok {ε : Type} {make : α → Except ε β} {source : β → α} {values : Entries β}
    (each : ∀ key value, (key, value) ∈ values → make (source value) = .ok value) :
    makeEach make (values.map fun (key, value) => (key, source value)) = .ok values := by
  refine mapM_map_eq_ok fun (key, value) held => ?_
  rw [each key value held]
  rfl

theorem exists_makeEach_eq_ok {ε : Type} {make : α → Except ε β} {source : β → α} {entries : Entries α}
    (each : ∀ key item, (key, item) ∈ entries → ∃ value, make item = .ok value ∧ source value = item) :
    ∃ values, entries.makeEach make = .ok values ∧ values.map (fun (key, value) => (key, source value)) = entries := by
  refine exists_mapM_eq_ok fun (key, item) held => ?_
  obtain ⟨value, makes, same⟩ := each key item held
  exact ⟨(key, value), by rw [makes]; rfl, congrArg (Prod.mk key) same⟩

theorem fault?_makeEach {ε : Type} (make : α → Except ε β) (entries : Entries α) :
    fault? (entries.makeEach make) = entries.findSome? fun entry => fault? (make entry.2) := by
  simp only [makeEach, fault?_mapM, fault?_map]

/-- Among tables in a row the first that has a key counts. -/
theorem get?_flatMap {γ : Type} (sources : List γ) (table : γ → Entries α) (key : String) :
    get? (sources.flatMap table) key = sources.findSome? fun source => get? (table source) key := by
  induction sources with
  | nil => rfl
  | cons source rest ih =>
    rw [List.flatMap_cons, get?_append, ih, List.findSome?_cons]
    cases get? (table source) key <;> rfl

theorem keys_flatMap {γ : Type} (sources : List γ) (table : γ → Entries α) :
    keys (sources.flatMap table) = sources.flatMap fun source => keys (table source) :=
  List.map_flatMap

end BuildConfig.Entries
