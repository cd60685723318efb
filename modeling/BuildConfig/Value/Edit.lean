import BuildConfig.Value

namespace BuildConfig

namespace Value

/-- The value under a key of a map. -/
def get? (value : Value) (key : String) : Option Value :=
  Entries.get? value.entries key

/-- The value reached by following keys through nested maps. -/
def getPath? (value : Value) : List String → Option Value
  | [] => some value
  | key :: rest => (value.get? key).bind fun child => child.getPath? rest

/-- Puts a value at the end of a path. Maps on the way are created where they are missing and take
the place of values of other kinds; the empty path replaces the tree. -/
def insertPath (value : Value) (path : List String) (new : Value) : Value :=
  match path with
  | [] => new
  | key :: rest =>
    let child := (value.get? key).getD empty
    .map (Entries.insert value.entries key (child.insertPath rest new))

/-- Takes the value at the end of a path out of the tree: the value and what is left. There is
nothing to take at the empty path or where the path leads nowhere. -/
def takePath? (value : Value) : List String → Option (Value × Value)
  | [] => none
  | [key] => (value.get? key).map fun taken => (taken, .map (Entries.erase value.entries key))
  | key :: next :: rest =>
    (value.get? key).bind fun child =>
      (child.takePath? (next :: rest)).map fun (taken, left) =>
        (taken, .map (Entries.insert value.entries key left))

/-- Takes the value at the end of a path out of the tree in place: the value, if there is one, and
the tree afterwards. Each map on the way holds again what is left of the value that the path leads
through, however far it leads. -/
def removePath : Value → List String → Option Value × Value
  | .map entries, [key] => (Entries.get? entries key, .map (Entries.erase entries key))
  | .map entries, key :: next :: rest =>
    match Entries.get? entries key with
    | some child =>
      let (taken, left) := child.removePath (next :: rest)
      (taken, .map (Entries.insert entries key left))
    | none => (none, .map entries)
  | value, _ => (none, value)

end Value

end BuildConfig
