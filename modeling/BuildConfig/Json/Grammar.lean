import BuildConfig.Number
import BuildConfig.Text.Digits

namespace BuildConfig

/-- A JSON text as it is written: numerals, and strings with their escapes. Whether they denote
anything is for their reader to say. -/
inductive JsonText where
  | null
  | bool (value : Bool)
  | number (numeral : Numeral)
  | string (escaped : List Char)
  | array (items : List JsonText)
  | object (members : List (List Char × JsonText))

namespace JsonText

def skipBlanks (cs : List Char) : List Char :=
  cs.dropWhile fun c => c == ' ' || c == '\n' || c == '\t' || c == '\r'

/-- Reads a string after its opening quote, and keeps its escapes. -/
def readString (read : List Char) : List Char → Option (List Char × List Char)
  | '"' :: rest => some (read.reverse, rest)
  | '\\' :: 'u' :: a :: b :: c :: d :: rest =>
    if [a, b, c, d].all Text.isHexDigit then
      readString (d :: c :: b :: a :: 'u' :: '\\' :: read) rest
    else none
  | '\\' :: c :: rest =>
    if ['"', '\\', '/', 'b', 'f', 'n', 'r', 't'].contains c then
      readString (c :: '\\' :: read) rest
    else none
  | c :: rest => if c.toNat < 32 then none else readString (c :: read) rest
  | [] => none

/-- Reads the digits after a point, if there is one. -/
def readFraction (cs : List Char) : Option (List Char × List Char) :=
  match cs with
  | '.' :: rest =>
    match rest.span Char.isDigit with
    | ([], _) => none
    | (digits, rest) => some (digits, rest)
  | _ => some ([], cs)

/-- Reads the power of ten after its letter, if there is one. -/
def readExponent (cs : List Char) : Option (Option Int × List Char) :=
  let signed (negative : Bool) (rest : List Char) : Option (Option Int × List Char) :=
    match rest.span Char.isDigit with
    | ([], _) => none
    | (digits, rest) =>
      let power : Int := Text.digitsValue 10 digits
      some (some (if negative then -power else power), rest)
  let afterLetter (rest : List Char) : Option (Option Int × List Char) :=
    match rest with
    | '+' :: rest => signed false rest
    | '-' :: rest => signed true rest
    | _ => signed false rest
  match cs with
  | 'e' :: rest => afterLetter rest
  | 'E' :: rest => afterLetter rest
  | _ => some (none, cs)

/-- Reads the digits before the point; only a single zero may come first. -/
def readWhole (cs : List Char) : Option (List Char × List Char) :=
  match cs with
  | '0' :: rest => some (['0'], rest)
  | _ =>
    match cs.span Char.isDigit with
    | ([], _) => none
    | (digits, rest) => some (digits, rest)

def readNumeral (cs : List Char) : Option (Numeral × List Char) := do
  let (negative, cs) := match cs with
    | '-' :: rest => (true, rest)
    | _ => (false, cs)
  let (whole, cs) ← readWhole cs
  let (fraction, cs) ← readFraction cs
  let (power, cs) ← readExponent cs
  some (⟨negative, whole, fraction, power⟩, cs)

mutual

/-- Reads a value. Each call either takes a character or leads to one that does, so twice the length
of the text bounds them. -/
def readValue : Nat → List Char → Option (JsonText × List Char)
  | 0, _ => none
  | fuel + 1, cs =>
    match skipBlanks cs with
    | 'n' :: 'u' :: 'l' :: 'l' :: rest => some (.null, rest)
    | 't' :: 'r' :: 'u' :: 'e' :: rest => some (.bool true, rest)
    | 'f' :: 'a' :: 'l' :: 's' :: 'e' :: rest => some (.bool false, rest)
    | '"' :: rest => (readString [] rest).map fun (text, rest) => (.string text, rest)
    | '[' :: rest =>
      match skipBlanks rest with
      | ']' :: rest => some (.array [], rest)
      | rest => readItems fuel [] rest
    | '{' :: rest =>
      match skipBlanks rest with
      | '}' :: rest => some (.object [], rest)
      | rest => readMembers fuel [] rest
    | cs => (readNumeral cs).map fun (numeral, rest) => (.number numeral, rest)

/-- Reads the items of an array that has one at least. -/
def readItems : Nat → List JsonText → List Char → Option (JsonText × List Char)
  | 0, _, _ => none
  | fuel + 1, items, cs =>
    match readValue fuel cs with
    | none => none
    | some (item, rest) =>
      match skipBlanks rest with
      | ',' :: rest => readItems fuel (item :: items) rest
      | ']' :: rest => some (.array (item :: items).reverse, rest)
      | _ => none

/-- Reads the members of an object that has one at least. -/
def readMembers : Nat → List (List Char × JsonText) → List Char → Option (JsonText × List Char)
  | 0, _, _ => none
  | fuel + 1, members, cs =>
    match skipBlanks cs with
    | '"' :: rest =>
      match readString [] rest with
      | none => none
      | some (name, rest) =>
        match skipBlanks rest with
        | ':' :: rest =>
          match readValue fuel rest with
          | none => none
          | some (value, rest) =>
            match skipBlanks rest with
            | ',' :: rest => readMembers fuel ((name, value) :: members) rest
            | '}' :: rest => some (.object ((name, value) :: members).reverse, rest)
            | _ => none
        | _ => none
    | _ => none

end

/-- The one value that a text consists of. -/
def ofText? (text : String) : Option JsonText :=
  let cs := text.toList
  match readValue (2 * cs.length + 2) cs with
  | some (value, rest) => if (skipBlanks rest).isEmpty then some value else none
  | none => none

end JsonText

end BuildConfig
