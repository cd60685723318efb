import BuildConfig.Proofs.Json.DistinctKeys
import BuildConfig.Toml.Config

namespace BuildConfig

namespace Toml

/-- No table of a document, at any depth, has two entries of one key. -/
inductive TomlValue.DistinctKeys : TomlValue → Prop
  | leaf {value : TomlValue} (notArray : ∀ items, value ≠ .array items) (notTable : ∀ entries, value ≠ .table entries) :
      DistinctKeys value
  | array {items : List TomlValue} (inside : ∀ item ∈ items, DistinctKeys item) : DistinctKeys (.array items)
  | table {entries : Entries TomlValue} (distinct : Entries.Distinct entries)
      (inside : ∀ key value, (key, value) ∈ entries → DistinctKeys value) : DistinctKeys (.table entries)

/-- The same for what a key stands for while a document is read. -/
inductive Node.DistinctKeys : Node → Prop
  | finished {value : TomlValue} (distinct : value.DistinctKeys) : DistinctKeys (.finished value)
  | table {explicit dotted : Bool} {entries : Entries Node} (distinct : Entries.Distinct entries)
      (inside : ∀ key node, (key, node) ∈ entries → DistinctKeys node) :
      DistinctKeys (.table explicit dotted entries)
  | series {tables : List (Entries Node)} (distinct : ∀ entries ∈ tables, Entries.Distinct entries)
      (inside : ∀ entries ∈ tables, ∀ key node, (key, node) ∈ entries → DistinctKeys node) :
      DistinctKeys (.series tables)

/-- A table that is being read, in which no key is repeated at any depth. -/
structure DistinctTable (entries : Entries Node) : Prop where
  distinct : Entries.Distinct entries
  inside : ∀ key node, (key, node) ∈ entries → node.DistinctKeys

section Nodes

variable {entries : Entries Node}

theorem distinctTable_nil : DistinctTable [] :=
  ⟨Entries.distinct_nil, by simp⟩

theorem DistinctTable.insert (table : DistinctTable entries) {node : Node} (distinct : node.DistinctKeys)
    (key : String) : DistinctTable (Entries.insert entries key node) := by
  refine ⟨table.distinct.insert key node, fun name inner held => ?_⟩
  rcases Entries.mem_insert_cases held with here | older
  · cases here
    exact distinct
  · exact table.inside name inner older

theorem DistinctTable.erase (table : DistinctTable entries) (key : String) :
    DistinctTable (Entries.erase entries key) := by
  refine ⟨table.distinct.erase key, fun name inner held => ?_⟩
  exact table.inside name inner (Entries.mem_of_mem_erase held)

theorem DistinctTable.get? (table : DistinctTable entries) {key : String} {node : Node}
    (found : Entries.get? entries key = some node) : node.DistinctKeys :=
  table.inside key node (Entries.mem_of_get? found)

theorem entryValues_eq (entries : Entries Node) :
    entryValues entries = entries.map fun (key, node) => (key, node.value) := by
  induction entries with
  | nil => rfl
  | cons entry rest ih =>
    obtain ⟨key, node⟩ := entry
    rw [entryValues, ih, List.map_cons]

theorem tableValues_eq (tables : List (Entries Node)) :
    tableValues tables = tables.map fun entries => .table (entryValues entries) := by
  induction tables with
  | nil => rfl
  | cons entries rest ih => rw [tableValues, ih, List.map_cons]

theorem distinctKeys_entryValues (distinct : Entries.Distinct entries)
    (inside : ∀ key node, (key, node) ∈ entries → node.value.DistinctKeys) :
    (TomlValue.table (entryValues entries)).DistinctKeys := by
  rw [entryValues_eq]
  refine .table ?_ fun key value held => ?_
  · rwa [Entries.Distinct, Entries.keys_map]
  · obtain ⟨⟨name, node⟩, listed, same⟩ := List.mem_map.mp held
    obtain ⟨_, rfl⟩ := Prod.mk.inj same
    exact inside name node listed

theorem Node.DistinctKeys.value {node : Node} (distinct : node.DistinctKeys) : node.value.DistinctKeys := by
  induction distinct with
  | finished distinct => exact distinct
  | table distinct _ ih => exact distinctKeys_entryValues distinct ih
  | @series tables distinct _ ih =>
    rw [Node.value, tableValues_eq]
    refine .array fun item held => ?_
    obtain ⟨entries, listed, rfl⟩ := List.mem_map.mp (List.mem_reverse.mp held)
    exact distinctKeys_entryValues (distinct entries listed) (ih entries listed)

theorem DistinctTable.value (table : DistinctTable entries) :
    (TomlValue.table (entryValues entries)).DistinctKeys :=
  distinctKeys_entryValues table.distinct fun key node held => (table.inside key node held).value

/-- A change at the end of a path that repeats no key there repeats none in the whole. -/
theorem DistinctTable.within {dottedKey : Bool} {change : Entries Node → Option (Entries Node)}
    (keeps : ∀ before after, DistinctTable before → change before = some after → DistinctTable after)
    {path : List String} {result : Entries Node} (table : DistinctTable entries)
    (changed : within dottedKey change path entries = some result) : DistinctTable result := by
  induction path generalizing entries result with
  | nil => exact keeps entries result table changed
  | cons key rest ih =>
    unfold Toml.within at changed
    split at changed
    · obtain ⟨inner, changedInner, rfl⟩ := Option.map_eq_some_iff.mp changed
      have inside := ih distinctTable_nil changedInner
      exact table.insert (.table inside.distinct inside.inside) key
    · rename_i explicit dotted inner found
      split at changed
      · cases changed
      · obtain ⟨inner, changedInner, rfl⟩ := Option.map_eq_some_iff.mp changed
        cases table.get? found with
        | table distinct nodes =>
          have inside := ih ⟨distinct, nodes⟩ changedInner
          exact table.insert (.table inside.distinct inside.inside) key
    · rename_i latest earlier found
      split at changed
      · cases changed
      · obtain ⟨inner, changedInner, rfl⟩ := Option.map_eq_some_iff.mp changed
        cases table.get? found with
        | series distinct nodes =>
          have inside := ih ⟨distinct latest (List.mem_cons_self ..), nodes latest (List.mem_cons_self ..)⟩ changedInner
          refine table.insert (.series ?_ ?_) key
          · intro entries listed
            rcases List.mem_cons.mp listed with rfl | older
            · exact inside.distinct
            · exact distinct entries (List.mem_cons_of_mem _ older)
          · intro entries listed
            rcases List.mem_cons.mp listed with rfl | older
            · exact inside.inside
            · exact nodes entries (List.mem_cons_of_mem _ older)
    · cases changed

theorem DistinctTable.assign (table : DistinctTable entries) {key : List String} {value : TomlValue}
    (distinct : value.DistinctKeys) {result : Entries Node} (assigned : assign key value entries = some result) :
    DistinctTable result := by
  unfold Toml.assign at assigned
  split at assigned
  · cases assigned
  · refine table.within (fun before after inner changed => ?_) assigned
    split at changed
    · cases changed
    · cases changed
      exact inner.insert (.finished distinct) _

theorem DistinctTable.openTable (table : DistinctTable entries) {path : List String} {result : Entries Node}
    (opened : openTable path entries = some result) : DistinctTable result := by
  unfold Toml.openTable at opened
  split at opened
  · cases opened
  · refine table.within (fun before after outer changed => ?_) opened
    split at changed
    · cases changed
      exact outer.insert (.table Entries.distinct_nil (by simp)) _
    · rename_i found
      cases changed
      cases outer.get? found with
      | table distinct nodes => exact (outer.erase _).insert (.table distinct nodes) _
    · cases changed

theorem DistinctTable.openSeries (table : DistinctTable entries) {path : List String} {result : Entries Node}
    (opened : openSeries path entries = some result) : DistinctTable result := by
  unfold Toml.openSeries at opened
  split at opened
  · cases opened
  · refine table.within (fun before after outer changed => ?_) opened
    split at changed
    · cases changed
      exact outer.insert (.series (by simp [Entries.distinct_nil]) (by simp)) _
    · rename_i found
      cases changed
      cases outer.get? found with
      | series distinct nodes =>
        refine outer.insert (.series ?_ ?_) _
        · intro entries listed
          rcases List.mem_cons.mp listed with rfl | older
          · exact Entries.distinct_nil
          · exact distinct entries older
        · intro entries listed
          rcases List.mem_cons.mp listed with rfl | older
          · simp
          · exact nodes entries older
    · cases changed

end Nodes

section Reading

theorem distinctKeys_readScalar {cs rest : List Char} {value : TomlValue}
    (read : readScalar cs = some (value, rest)) : value.DistinctKeys := by
  unfold readScalar at read
  split at read
  · cases read
    exact .leaf (by simp) (by simp)
  · cases read
    exact .leaf (by simp) (by simp)
  · split at read
    · cases read
      exact .leaf (by simp) (by simp)
    · split at read
      · cases read
        exact .leaf (by simp) (by simp)
      · obtain ⟨⟨number, after⟩, _, same⟩ := Option.map_eq_some_iff.mp read
        cases same
        exact .leaf (by simp) (by simp)

/-- A value, the items of an array and the pairs of an inline table, together, as they are read by
turns. -/
theorem distinctKeys_readers (fuel : Nat) :
    (∀ depth cs value rest, readValue fuel depth cs = some (value, rest) → value.DistinctKeys) ∧
      (∀ depth items cs value rest, (∀ item ∈ items, item.DistinctKeys) →
        readItems fuel depth items cs = some (value, rest) → value.DistinctKeys) ∧
      ∀ depth entries cs value rest, DistinctTable entries →
        readPairs fuel depth entries cs = some (value, rest) → value.DistinctKeys := by
  induction fuel with
  | zero => simp [readValue, readItems, readPairs]
  | succ fuel ih =>
    obtain ⟨ofValue, ofItems, ofPairs⟩ := ih
    refine ⟨?_, ?_, ?_⟩
    · intro depth cs value rest read
      unfold readValue at read
      split at read
      · obtain ⟨⟨text, after⟩, _, same⟩ := Option.map_eq_some_iff.mp read
        cases same
        exact .leaf (by simp) (by simp)
      · obtain ⟨⟨text, after⟩, _, same⟩ := Option.map_eq_some_iff.mp read
        cases same
        exact .leaf (by simp) (by simp)
      · split at read
        · cases read
        · exact ofItems _ [] _ value rest (by simp) read
      · split at read
        · cases read
        · split at read
          · cases read
            exact .table Entries.distinct_nil (by simp)
          · exact ofPairs _ [] _ value rest distinctTable_nil read
      · exact distinctKeys_readScalar read
    · intro depth items cs value rest before read
      unfold readItems at read
      split at read
      · cases read
      · cases read
        exact .array fun item listed => before item (List.mem_reverse.mp listed)
      · split at read
        · cases read
        · rename_i item after readItem
          have all : ∀ other ∈ item :: items, other.DistinctKeys := by
            intro other listed
            rcases List.mem_cons.mp listed with rfl | older
            · exact ofValue _ _ _ _ readItem
            · exact before other older
          split at read
          · exact ofItems _ _ _ value rest all read
          · cases read
            exact .array fun item listed => all item (List.mem_reverse.mp listed)
          · cases read
    · intro depth entries cs value rest table read
      unfold readPairs at read
      split at read
      · split at read
        · cases read
        · rename_i first after readFirst
          split at read
          · cases read
          · rename_i more assigned
            have larger := table.assign (ofValue _ _ _ _ readFirst) assigned
            split at read
            · exact ofPairs _ _ _ value rest larger read
            · cases read
              exact larger.value
            · cases read
      · cases read

theorem distinctKeys_readKeyValue {cs rest : List Char} {key : List String} {value : TomlValue}
    (read : readKeyValue cs = some (key, value, rest)) : value.DistinctKeys := by
  unfold readKeyValue at read
  split at read
  · obtain ⟨⟨first, after⟩, readFirst, later⟩ := Option.bind_eq_some_iff.mp read
    obtain ⟨_, _, same⟩ := Option.bind_eq_some_iff.mp later
    cases same
    exact (distinctKeys_readers _).1 _ _ _ _ readFirst
  · cases read

/-- Every line of a document keeps the tables read so far without repeated keys. -/
theorem distinctTable_readLines {fuel : Nat} {entries result : Entries Node} {header : List String}
    {cs : List Char} (table : DistinctTable entries) (read : readLines fuel entries header cs = some result) :
    DistinctTable result := by
  induction fuel generalizing entries header cs with
  | zero => cases read
  | succ fuel ih =>
    unfold readLines at read
    split at read
    · cases read
      exact table
    · exact ih table read
    · exact ih table read
    · obtain ⟨_, _, later⟩ := Option.bind_eq_some_iff.mp read
      exact ih table later
    · split at read
      · obtain ⟨_, _, afterLine⟩ := Option.bind_eq_some_iff.mp read
        obtain ⟨_, opened, later⟩ := Option.bind_eq_some_iff.mp afterLine
        exact ih (table.openSeries opened) later
      · cases read
    · split at read
      · obtain ⟨_, _, afterLine⟩ := Option.bind_eq_some_iff.mp read
        obtain ⟨_, opened, later⟩ := Option.bind_eq_some_iff.mp afterLine
        exact ih (table.openTable opened) later
      · cases read
    · obtain ⟨⟨key, value, after⟩, readPair, later⟩ := Option.bind_eq_some_iff.mp read
      obtain ⟨_, assigned, later⟩ := Option.bind_eq_some_iff.mp later
      have distinct := distinctKeys_readKeyValue readPair
      exact ih (table.within (fun _ _ inner changed => inner.assign distinct changed) assigned) later

theorem distinctKeys_ofText? {text : String} {document : TomlValue} (read : ofText? text = some document) :
    document.DistinctKeys := by
  obtain ⟨entries, readAll, rfl⟩ := Option.map_eq_some_iff.mp read
  exact (distinctTable_readLines distinctTable_nil readAll).value

end Reading

section Settling

theorem perm_insertSorted (key : String) (value : TomlValue) (entries : Entries TomlValue) :
    (insertSorted key value entries).Perm ((key, value) :: entries) := by
  induction entries with
  | nil => exact .refl _
  | cons entry rest ih =>
    obtain ⟨name, other⟩ := entry
    rw [insertSorted]
    split
    · exact .refl _
    · exact (ih.cons (name, other)).trans (.swap ..)

theorem mem_of_settledItems? {items settled : List TomlValue} (settles : settledItems? items = some settled) :
    ∀ value ∈ settled, ∃ item ∈ items, item.settled? = some value := by
  induction items generalizing settled with
  | nil =>
    cases settles
    simp
  | cons item rest ih =>
    rw [settledItems?] at settles
    obtain ⟨first, settlesFirst, later⟩ := Option.bind_eq_some_iff.mp settles
    obtain ⟨others, settlesOthers, same⟩ := Option.bind_eq_some_iff.mp later
    cases same
    intro value listed
    rcases List.mem_cons.mp listed with rfl | other
    · exact ⟨item, List.mem_cons_self .., settlesFirst⟩
    · obtain ⟨source, held, settlesValue⟩ := ih settlesOthers value other
      exact ⟨source, List.mem_cons_of_mem _ held, settlesValue⟩

/-- Ordering a table moves its entries and changes no key. -/
theorem keys_settledEntries? {entries settled : Entries TomlValue} (settles : settledEntries? entries = some settled) :
    (Entries.keys settled).Perm (Entries.keys entries) := by
  induction entries generalizing settled with
  | nil =>
    cases settles
    exact .refl _
  | cons entry rest ih =>
    obtain ⟨key, value⟩ := entry
    rw [settledEntries?] at settles
    obtain ⟨first, _, later⟩ := Option.bind_eq_some_iff.mp settles
    obtain ⟨others, settlesOthers, same⟩ := Option.bind_eq_some_iff.mp later
    cases same
    have placed := (perm_insertSorted key first others).map Prod.fst
    exact placed.trans ((ih settlesOthers).cons key)

theorem mem_of_settledEntries? {entries settled : Entries TomlValue}
    (settles : settledEntries? entries = some settled) :
    ∀ key value, (key, value) ∈ settled → ∃ source, (key, source) ∈ entries ∧ source.settled? = some value := by
  induction entries generalizing settled with
  | nil =>
    cases settles
    simp
  | cons entry rest ih =>
    obtain ⟨name, source⟩ := entry
    rw [settledEntries?] at settles
    obtain ⟨first, settlesFirst, later⟩ := Option.bind_eq_some_iff.mp settles
    obtain ⟨others, settlesOthers, same⟩ := Option.bind_eq_some_iff.mp later
    cases same
    intro key value held
    rcases List.mem_cons.mp ((perm_insertSorted name first others).mem_iff.mp held) with here | other
    · cases here
      exact ⟨source, List.mem_cons_self .., settlesFirst⟩
    · obtain ⟨older, listed, settlesOlder⟩ := ih settlesOthers key value other
      exact ⟨older, List.mem_cons_of_mem _ listed, settlesOlder⟩

theorem settled?_table_cases {entries : Entries TomlValue} {settled : TomlValue}
    (settles : (TomlValue.table entries).settled? = some settled) :
    (∃ date, settled = .dateTime date) ∨ ∃ inner, settledEntries? entries = some inner ∧ settled = .table inner := by
  cases entries with
  | nil =>
    cases settles
    exact Or.inr ⟨[], rfl, rfl⟩
  | cons entry rest =>
    obtain ⟨key, value⟩ := entry
    unfold TomlValue.settled? at settles
    split at settles
    · split at settles
      · obtain ⟨date, _, rfl⟩ := Option.map_eq_some_iff.mp settles
        exact Or.inl ⟨date, rfl⟩
      · cases settles
    · obtain ⟨first, settlesFirst, later⟩ := Option.bind_eq_some_iff.mp settles
      obtain ⟨others, settlesOthers, same⟩ := Option.bind_eq_some_iff.mp later
      cases same
      refine Or.inr ⟨insertSorted key first others, ?_, rfl⟩
      rw [settledEntries?, settlesFirst, settlesOthers]
      rfl

theorem TomlValue.DistinctKeys.settled? {value settled : TomlValue} (distinct : value.DistinctKeys)
    (settles : value.settled? = some settled) : settled.DistinctKeys := by
  induction distinct generalizing settled with
  | @leaf value notArray notTable =>
    have unchanged : value.settled? = some value := by
      rw [TomlValue.settled?]
      · exact fun items same => notArray items same
      · exact fun same => notTable [] same
      · exact fun key first rest same => notTable _ same
    rw [unchanged] at settles
    cases settles
    exact .leaf notArray notTable
  | array _ ih =>
    rw [TomlValue.settled?] at settles
    obtain ⟨items, settlesItems, rfl⟩ := Option.map_eq_some_iff.mp settles
    refine .array fun item listed => ?_
    obtain ⟨source, held, settlesItem⟩ := mem_of_settledItems? settlesItems item listed
    exact ih source held settlesItem
  | table distinct _ ih =>
    rcases settled?_table_cases settles with ⟨date, rfl⟩ | ⟨inner, settlesEntries, rfl⟩
    · exact .leaf (by simp) (by simp)
    · refine .table ((keys_settledEntries? settlesEntries).nodup_iff.mpr distinct) fun key value held => ?_
      obtain ⟨source, listed, settlesValue⟩ := mem_of_settledEntries? settlesEntries key value held
      exact ih key source listed settlesValue

end Settling

end Toml

namespace Value

variable {compiles : String → Bool}

theorem ofTomlItems_eq (items : List Toml.TomlValue) : ofTomlItems compiles items = items.mapM (ofToml compiles) := by
  induction items with
  | nil => rfl
  | cons item rest ih => rw [ofTomlItems, List.mapM_cons, ih]

theorem ofTomlEntries_eq (table : Entries Toml.TomlValue) :
    ofTomlEntries compiles table = table.makeEach (ofToml compiles) := by
  induction table with
  | nil => rfl
  | cons entry rest ih =>
    obtain ⟨key, source⟩ := entry
    rw [ofTomlEntries, ih, Entries.makeEach, Entries.makeEach, List.mapM_cons]
    cases ofToml compiles source <;> rfl

/-- A table stands for a map, unless it is the one form that stands for a pattern. -/
theorem ofToml_table_cases (table : Entries Toml.TomlValue) :
    (∃ source, table = [(patternKey, .string source)] ∧
        ofToml compiles (.table table) = ofPattern compiles source) ∨
      ofToml compiles (.table table) = (ofTomlEntries compiles table).map .map := by
  by_cases single : ∃ name source, table = [(name, .string source)]
  · obtain ⟨name, source, rfl⟩ := single
    by_cases isPattern : name = patternKey
    · subst name
      exact Or.inl ⟨source, rfl, by rw [ofToml, if_pos rfl]⟩
    · refine Or.inr ?_
      rw [ofToml, if_neg isPattern]
      rfl
  · refine Or.inr ?_
    rw [ofToml]
    exact fun name source same => single ⟨name, source, same⟩

theorem distinctKeys_ofToml {document : Toml.TomlValue} (distinct : document.DistinctKeys) {value : Value}
    (made : ofToml compiles document = .ok value) : value.DistinctKeys := by
  induction distinct generalizing value with
  | @leaf document notArray notTable =>
    cases document with
    | string | integer | boolean | dateTime =>
      cases made
      exact trivial
    | float =>
      obtain ⟨number, _, rfl⟩ := map_eq_ok_iff.mp made
      exact trivial
    | array items => exact absurd rfl (notArray items)
    | table entries => exact absurd rfl (notTable entries)
  | array _ ih =>
    rw [ofToml, ofTomlItems_eq] at made
    obtain ⟨values, madeItems, rfl⟩ := map_eq_ok_iff.mp made
    refine distinctKeys_array.mpr fun item listed => ?_
    obtain ⟨source, held, madeItem⟩ := mem_of_mapM_eq_ok madeItems item listed
    exact ih source held madeItem
  | @table table distinct _ ih =>
    rcases ofToml_table_cases table with ⟨source, _, asPattern⟩ | asMap
    · rw [asPattern] at made
      exact distinctKeys_ofPattern made
    · rw [asMap, ofTomlEntries_eq] at made
      obtain ⟨entries, madeEntries, rfl⟩ := map_eq_ok_iff.mp made
      refine distinctKeys_map.mpr ⟨?_, fun key child found => ?_⟩
      · rwa [Entries.Distinct, Entries.keys_makeEach madeEntries]
      · obtain ⟨source, held, madeChild⟩ :=
          Entries.mem_of_makeEach madeEntries key child (Entries.mem_of_get? found)
        exact ih key source held madeChild

end Value

/-- What is read from a TOML text repeats no key. -/
theorem distinctKeys_of_toml {compiles : String → Bool} {text : String} {document settled : Toml.TomlValue}
    (read : Toml.ofText? text = some document) (settles : document.settled? = some settled) {value : Value}
    (made : Value.ofToml compiles settled = .ok value) : value.DistinctKeys :=
  Value.distinctKeys_ofToml ((Toml.distinctKeys_ofText? read).settled? settles) made

end BuildConfig
