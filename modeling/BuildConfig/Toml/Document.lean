import BuildConfig.Entries
import BuildConfig.Number.Binary64
import BuildConfig.Toml.DateTime

namespace BuildConfig.Toml

inductive TomlFloat where
  | finite (value : Binary64)
  | infinite (negative : Bool)
  | notANumber

/-- A value of a TOML document. -/
inductive TomlValue where
  | string (text : String)
  | integer (value : Int)
  | float (value : TomlFloat)
  | boolean (value : Bool)
  | dateTime (value : DateTime)
  | array (items : List TomlValue)
  | table (entries : List (String × TomlValue))

/-- What a key of a document that is being read stands for: a finished value, a table that can still
grow, or tables that are written one by one, the latest first. A table is explicit when it has a
header of its own, and dotted when it comes from a dotted key. -/
inductive Node where
  | finished (value : TomlValue)
  | table (explicit dotted : Bool) (entries : List (String × Node))
  | series (tables : List (List (String × Node)))

mutual

/-- The value of a node. Tables keep their entries in the order in which they were written. -/
def Node.value : Node → TomlValue
  | .finished value => value
  | .table _ _ entries => .table (entryValues entries)
  | .series tables => .array (tableValues tables).reverse

def entryValues : List (String × Node) → List (String × TomlValue)
  | [] => []
  | (key, node) :: rest => (key, node.value) :: entryValues rest

def tableValues : List (List (String × Node)) → List TomlValue
  | [] => []
  | entries :: rest => .table (entryValues entries) :: tableValues rest

end

/-- Puts an entry into a table that is ordered by key. -/
def insertSorted (key : String) (value : TomlValue) :
    List (String × TomlValue) → List (String × TomlValue)
  | [] => [(key, value)]
  | (name, other) :: rest =>
    if key < name then (key, value) :: (name, other) :: rest
    else (name, other) :: insertSorted key value rest

/-- The key under which a table can hold a date as text. -/
def dateTimeKey : String := "$__toml_private_datetime"

mutual

/-- The value with all tables ordered by key. A table that starts with the key of dates stands for
the date, whatever else it holds; its text has to be one. -/
def TomlValue.settled? : TomlValue → Option TomlValue
  | .array items => (settledItems? items).map .array
  | .table [] => some (.table [])
  | .table ((key, value) :: rest) =>
    if key = dateTimeKey then
      match value with
      | .string text => (DateTime.ofText? text).map .dateTime
      | _ => none
    else do
      let value ← value.settled?
      let rest ← settledEntries? rest
      some (.table (insertSorted key value rest))
  | value => some value

def settledItems? : List TomlValue → Option (List TomlValue)
  | [] => some []
  | item :: rest => do
    let item ← item.settled?
    let rest ← settledItems? rest
    some (item :: rest)

/-- Entries with settled values, ordered by key. -/
def settledEntries? : List (String × TomlValue) → Option (List (String × TomlValue))
  | [] => some []
  | (key, value) :: rest => do
    let value ← value.settled?
    let rest ← settledEntries? rest
    some (insertSorted key value rest)

end

/-- Changes the table that keys lead to; tables that are missing on the way are made. A series leads
to its latest table. Keys of a dotted key lead neither into a table that has a header, nor at their
end into one that does not come from a dotted key. -/
def within (dottedKey : Bool) (change : Entries Node → Option (Entries Node)) :
    List String → Entries Node → Option (Entries Node)
  | [], entries => change entries
  | key :: rest, entries =>
    match Entries.get? entries key with
    | none =>
      (within dottedKey change rest []).map fun inner =>
        Entries.insert entries key (.table false dottedKey inner)
    | some (.table explicit dotted inner) =>
      if dottedKey && (explicit || (rest.isEmpty && !dotted)) then none
      else
        (within dottedKey change rest inner).map fun inner =>
          Entries.insert entries key (.table explicit dotted inner)
    | some (.series (latest :: earlier)) =>
      if dottedKey && rest.isEmpty then none
      else
        (within dottedKey change rest latest).map fun latest =>
          Entries.insert entries key (.series (latest :: earlier))
    | some _ => none

/-- Gives a value to a dotted key. No key is given a value twice. -/
def assign (key : List String) (value : TomlValue) (entries : Entries Node) :
    Option (Entries Node) :=
  match key.getLast? with
  | none => none
  | some last =>
    within true (fun table =>
      if Entries.contains table last then none
      else some (Entries.insert table last (.finished value))) key.dropLast entries

/-- Opens the table of a header. It may be one that was only passed through before, which then moves
behind the other entries. -/
def openTable (path : List String) (entries : Entries Node) : Option (Entries Node) :=
  match path.getLast? with
  | none => none
  | some last =>
    within false (fun table =>
      match Entries.get? table last with
      | none => some (Entries.insert table last (.table true false []))
      | some (.table false false inner) =>
        some (Entries.insert (Entries.erase table last) last (.table true false inner))
      | some _ => none) path.dropLast entries

/-- Opens a further table of a series. -/
def openSeries (path : List String) (entries : Entries Node) : Option (Entries Node) :=
  match path.getLast? with
  | none => none
  | some last =>
    within false (fun table =>
      match Entries.get? table last with
      | none => some (Entries.insert table last (.series [[]]))
      | some (.series tables) => some (Entries.insert table last (.series ([] :: tables)))
      | some _ => none) path.dropLast entries

end BuildConfig.Toml
