import BuildConfig.Proofs.Entries.Lookup
import Mathlib.Data.List.Induction

namespace BuildConfig

/-- One more name changes nothing among the first occurrences, unless it is new. -/
theorem eraseDups_append_singleton (names : List String) (name : String) :
    (names ++ [name]).eraseDups = if name ∈ names then names.eraseDups else names.eraseDups ++ [name] := by
  rw [List.eraseDups_append]
  by_cases held : name ∈ names <;> simp [List.removeAll, held, List.eraseDups_cons]

theorem eraseDups_of_nodup {names : List String} (nodup : names.Nodup) : names.eraseDups = names := by
  induction names with
  | nil => rfl
  | cons name rest ih =>
    obtain ⟨fresh, nodupRest⟩ := List.nodup_cons.mp nodup
    have others : rest.filter (fun other => !other == name) = rest :=
      List.filter_eq_self.mpr fun other listed => by
        have different : other ≠ name := fun same => fresh (same ▸ listed)
        simpa using different
    rw [List.eraseDups_cons, others, ih nodupRest]

namespace Entries

variable {α β : Type}

/-- A table that only ever takes up names in the order in which they come has them in the order of their first
occurrences, behind those it starts with. -/
theorem keys_foldl {step : Entries α → β → Entries α} {name : β → String}
    (takesUp : ∀ entries item, keys (step entries item) =
      if name item ∈ keys entries then keys entries else keys entries ++ [name item])
    {entries : Entries α} (distinct : Distinct entries) (items : List β) :
    keys (items.foldl step entries) = (keys entries ++ items.map name).eraseDups := by
  induction items using List.reverseRecOn with
  | nil => rw [List.map_nil, List.append_nil, List.foldl_nil, eraseDups_of_nodup distinct]
  | append_singleton before item ih =>
    rw [List.foldl_append, List.foldl_cons, List.foldl_nil, takesUp, ih, List.map_append, List.map_singleton,
      ← List.append_assoc, eraseDups_append_singleton]
    simp only [List.mem_eraseDups]

theorem keys_ofList (assignments : List (String × α)) : keys (ofList assignments) = (keys assignments).eraseDups :=
  keys_foldl (fun entries item => keys_insert entries item.1 item.2) distinct_nil assignments

/-- Adding entries that are all new, one after the other, puts them behind those that are there. -/
theorem foldl_eq_append {step : Entries α → String × α → Entries α}
    (appends : ∀ entries entry, get? entries entry.1 = none → step entries entry = entries ++ [entry])
    {entries more : Entries α} (distinct : Distinct (entries ++ more)) : more.foldl step entries = entries ++ more := by
  induction more generalizing entries with
  | nil => rw [List.foldl_nil, List.append_nil]
  | cons entry rest ih =>
    have joined : entries ++ entry :: rest = entries ++ [entry] ++ rest := by
      rw [List.append_assoc, List.singleton_append]
    have fresh : get? entries entry.1 = none := by
      rw [Distinct, keys, List.map_append, List.nodup_append] at distinct
      exact get?_eq_none_iff.mpr fun held => distinct.2.2 _ held entry.1 (List.mem_cons_self ..) rfl
    rw [List.foldl_cons, appends entries entry fresh, joined]
    exact ih (joined ▸ distinct)

theorem ofList_eq_self {entries : Entries α} (distinct : Distinct entries) : ofList entries = entries :=
  foldl_eq_append (fun _ entry fresh => insert_of_missing fresh entry.2) distinct

theorem get?_insertNew (entries : Entries α) (key other : String) (value : α) :
    get? (insertNew entries key value) other =
      (get? entries other).or (if key = other then some value else none) := by
  have single : get? [(key, value)] other = if key = other then some value else none := rfl
  unfold insertNew
  split
  · rename_i present
    by_cases same : key = other
    · subst other
      obtain ⟨held, found⟩ := Option.isSome_iff_exists.mp present
      rw [found, Option.some_or]
    · rw [if_neg same, Option.or_none]
  · rw [get?_append, single]

theorem mem_of_mem_ofList {assignments : List (String × α)} {entry : String × α} (held : entry ∈ ofList assignments) :
    entry ∈ assignments :=
  (mem_assign_cases held).resolve_right List.not_mem_nil

/-- A table with one value throughout is known by its keys. -/
theorem eq_map_keys {entries : Entries α} {value : α} (same : ∀ entry ∈ entries, entry.2 = value) :
    entries = (keys entries).map fun key => (key, value) := by
  induction entries with
  | nil => rfl
  | cons entry rest ih =>
    obtain ⟨here, later⟩ := List.forall_mem_cons.mp same
    rw [keys_cons, List.map_cons, ← ih later, ← here]

end Entries

end BuildConfig
