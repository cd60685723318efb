import BuildConfig.Toml.Scalar

namespace BuildConfig.Toml

/-- Skips blanks, line ends and comments inside an array. A comment has to end with its line. -/
def skipTrivia (inComment : Bool) : List Char → Option (List Char)
  | '\r' :: '\n' :: rest => skipTrivia false rest
  | '\n' :: rest => skipTrivia false rest
  | c :: rest =>
    if inComment then (if isPlain c then skipTrivia true rest else none)
    else if isBlank c then skipTrivia false rest
    else if c == '#' then skipTrivia true rest
    else some (c :: rest)
  | [] => if inComment then none else some []

/-- Reads the end of a line, with a comment if there is one. -/
def endLine (cs : List Char) : Option (List Char) :=
  let afterComment := match skipBlanks cs with
    | '#' :: rest => rest.dropWhile isPlain
    | rest => rest
  match afterComment with
  | [] => some []
  | '\n' :: rest => some rest
  | '\r' :: '\n' :: rest => some rest
  | _ => none

def isBareKeyChar (c : Char) : Bool :=
  c.isAlphanum || c == '-' || c == '_'

/-- Reads a part of a key: a string on one line, or a bare word. -/
def readKeyPart (cs : List Char) : Option (String × List Char) :=
  match cs with
  | '"' :: rest => (readBasic [] rest).map fun (text, rest) => (String.ofList text, rest)
  | '\'' :: rest => (readLiteral rest).map fun (text, rest) => (String.ofList text, rest)
  | _ =>
    match cs.span isBareKeyChar with
    | ([], _) => none
    | (word, rest) => some (String.ofList word, rest)

/-- How deeply arrays, inline tables and dotted keys may be nested. -/
def depthLimit : Nat := 79

/-- Reads a key with dots between its parts; each part takes a character at least. -/
def readKeyParts : Nat → List Char → Option (List String × List Char)
  | 0, _ => none
  | fuel + 1, cs => do
    let (part, rest) ← readKeyPart (skipBlanks cs)
    match skipBlanks rest with
    | '.' :: rest => do
      let (parts, rest) ← readKeyParts fuel rest
      some (part :: parts, rest)
    | rest => some ([part], rest)

def readKey (cs : List Char) : Option (List String × List Char) := do
  let (parts, rest) ← readKeyParts (cs.length + 1) cs
  if parts.length ≤ depthLimit then some (parts, rest) else none

mutual

/-- Reads a value in which arrays and inline tables may be nested to a depth. Each call takes a
character or leads to one that does, so twice the length of the text bounds them. -/
def readValue : Nat → Nat → List Char → Option (TomlValue × List Char)
  | 0, _, _ => none
  | fuel + 1, depth, cs =>
    match cs with
    | '"' :: _ => (readString cs).map fun (text, rest) => (.string text, rest)
    | '\'' :: _ => (readString cs).map fun (text, rest) => (.string text, rest)
    | '[' :: rest => if depth = 0 then none else readItems fuel (depth - 1) [] rest
    | '{' :: rest =>
      if depth = 0 then none
      else match skipBlanks rest with
        | '}' :: rest => some (.table [], rest)
        | rest => readPairs fuel (depth - 1) [] rest
    | _ => readScalar cs

/-- Reads the items of an array, which may end with a comma. -/
def readItems : Nat → Nat → List TomlValue → List Char → Option (TomlValue × List Char)
  | 0, _, _, _ => none
  | fuel + 1, depth, items, cs =>
    match skipTrivia false cs with
    | none => none
    | some (']' :: rest) => some (.array items.reverse, rest)
    | some cs =>
      match readValue fuel depth cs with
      | none => none
      | some (item, rest) =>
        match skipTrivia false rest with
        | some (',' :: rest) => readItems fuel depth (item :: items) rest
        | some (']' :: rest) => some (.array (item :: items).reverse, rest)
        | _ => none

/-- Reads the pairs of an inline table that has one at least. -/
def readPairs : Nat → Nat → Entries Node → List Char → Option (TomlValue × List Char)
  | 0, _, _, _ => none
  | fuel + 1, depth, entries, cs =>
    match readKey cs with
    | some (key, '=' :: rest) =>
      match readValue fuel depth (skipBlanks rest) with
      | none => none
      | some (value, rest) =>
        match assign key value entries with
        | none => none
        | some entries =>
          match skipBlanks rest with
          | ',' :: rest => readPairs fuel depth entries rest
          | '}' :: rest => some (.table (entryValues entries), rest)
          | _ => none
    | _ => none

end

/-- Reads a key and its value up to the end of the line. -/
def readKeyValue (cs : List Char) : Option (List String × TomlValue × List Char) :=
  match readKey cs with
  | some (key, '=' :: rest) => do
    let (value, rest) ← readValue (2 * rest.length + 2) depthLimit (skipBlanks rest)
    let rest ← endLine rest
    some (key, value, rest)
  | _ => none

/-- Reads lines: the document so far, and the path of the latest header. Each line takes a
character at least. -/
def readLines : Nat → Entries Node → List String → List Char → Option (Entries Node)
  | 0, _, _, _ => none
  | fuel + 1, entries, header, cs =>
    match skipBlanks cs with
    | [] => some entries
    | '\n' :: rest => readLines fuel entries header rest
    | '\r' :: '\n' :: rest => readLines fuel entries header rest
    | '#' :: rest => (endLine ('#' :: rest)).bind (readLines fuel entries header)
    | '[' :: '[' :: rest =>
      match readKey rest with
      | some (path, ']' :: ']' :: rest) =>
        (endLine rest).bind fun rest =>
          (openSeries path entries).bind fun entries => readLines fuel entries path rest
      | _ => none
    | '[' :: rest =>
      match readKey rest with
      | some (path, ']' :: rest) =>
        (endLine rest).bind fun rest =>
          (openTable path entries).bind fun entries => readLines fuel entries path rest
      | _ => none
    | cs =>
      (readKeyValue cs).bind fun (key, value, rest) =>
        (within false (assign key value) header entries).bind fun entries =>
          readLines fuel entries header rest

/-- Reads a document; a byte order mark at its start does not count. -/
def ofText? (text : String) : Option TomlValue :=
  let cs := match text.toList with
    | '\ufeff' :: rest => rest
    | cs => cs
  (readLines (cs.length + 1) [] [] cs).map fun entries => .table (entryValues entries)

end BuildConfig.Toml
