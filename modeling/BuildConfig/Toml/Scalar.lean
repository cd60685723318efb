import BuildConfig.Toml.Document

namespace BuildConfig.Toml

def isBlank (c : Char) : Bool :=
  c == ' ' || c == '\t'

def skipBlanks (cs : List Char) : List Char :=
  cs.dropWhile isBlank

/-- Tabs and all that is no control character. -/
def isPlain (c : Char) : Bool :=
  c == '\t' || (32 ≤ c.toNat && c.toNat != 127)

def isLineStart : List Char → Bool
  | '\n' :: _ => true
  | '\r' :: '\n' :: _ => true
  | _ => false

/-- The character of a code that is one. -/
def charOf? (digits : List Char) : Option Char :=
  let code := Text.digitsValue 16 digits
  if digits.all Text.isHexDigit && code.isValidChar then some (Char.ofNat code) else none

/-- The character of an escape of one letter. -/
def escaped? : Char → Option Char
  | 'b' => some '\x08'
  | 't' => some '\t'
  | 'n' => some '\n'
  | 'f' => some '\x0c'
  | 'r' => some '\r'
  | '"' => some '"'
  | '\\' => some '\\'
  | _ => none

/-- Reads a string on one line, after its opening quotation mark. -/
def readBasic (read : List Char) : List Char → Option (List Char × List Char)
  | '"' :: rest => some (read.reverse, rest)
  | '\\' :: 'u' :: a :: b :: c :: d :: rest =>
    match charOf? [a, b, c, d] with
    | some char => readBasic (char :: read) rest
    | none => none
  | '\\' :: 'U' :: a :: b :: c :: d :: e :: f :: g :: h :: rest =>
    match charOf? [a, b, c, d, e, f, g, h] with
    | some char => readBasic (char :: read) rest
    | none => none
  | '\\' :: c :: rest =>
    match escaped? c with
    | some char => readBasic (char :: read) rest
    | none => none
  | c :: rest => if isPlain c then readBasic (c :: read) rest else none
  | [] => none

/-- Reads a string over several lines, after its opening. A backslash at the end of a line joins it
to the next character that is no blank; up to two quotation marks may come before the closing. -/
def readLongBasic (joining : Bool) (read : List Char) : List Char → Option (List Char × List Char)
  | '"' :: '"' :: '"' :: '"' :: '"' :: rest => some (('"' :: '"' :: read).reverse, rest)
  | '"' :: '"' :: '"' :: '"' :: rest => some (('"' :: read).reverse, rest)
  | '"' :: '"' :: '"' :: rest => some (read.reverse, rest)
  | '\r' :: '\n' :: rest => readLongBasic joining (if joining then read else '\n' :: read) rest
  | '\n' :: rest => readLongBasic joining (if joining then read else '\n' :: read) rest
  | '\\' :: 'u' :: a :: b :: c :: d :: rest =>
    match charOf? [a, b, c, d] with
    | some char => readLongBasic false (char :: read) rest
    | none => none
  | '\\' :: 'U' :: a :: b :: c :: d :: e :: f :: g :: h :: rest =>
    match charOf? [a, b, c, d, e, f, g, h] with
    | some char => readLongBasic false (char :: read) rest
    | none => none
  | '\\' :: c :: rest =>
    if isLineStart (skipBlanks (c :: rest)) then readLongBasic true read rest
    else match escaped? c with
      | some char => readLongBasic false (char :: read) rest
      | none => none
  | c :: rest =>
    if joining && isBlank c then readLongBasic true read rest
    else if isPlain c then readLongBasic false (c :: read) rest
    else none
  | [] => none

/-- Reads a string without escapes on one line, after its opening apostrophe. -/
def readLiteral (cs : List Char) : Option (List Char × List Char) :=
  match cs.span fun c => isPlain c && c != '\'' with
  | (text, '\'' :: rest) => some (text, rest)
  | _ => none

/-- Reads a string without escapes over several lines, after its opening. -/
def readLongLiteral (read : List Char) : List Char → Option (List Char × List Char)
  | '\'' :: '\'' :: '\'' :: '\'' :: '\'' :: rest => some (('\'' :: '\'' :: read).reverse, rest)
  | '\'' :: '\'' :: '\'' :: '\'' :: rest => some (('\'' :: read).reverse, rest)
  | '\'' :: '\'' :: '\'' :: rest => some (read.reverse, rest)
  | '\r' :: '\n' :: rest => readLongLiteral ('\n' :: read) rest
  | c :: rest => if isPlain c || c == '\n' then readLongLiteral (c :: read) rest else none
  | [] => none

/-- A line end right after the opening of a long string is not part of it. -/
def dropLineEnd : List Char → List Char
  | '\n' :: rest => rest
  | '\r' :: '\n' :: rest => rest
  | cs => cs

/-- Reads a string of any of the four forms. -/
def readString (cs : List Char) : Option (String × List Char) :=
  let read := match cs with
    | '"' :: '"' :: '"' :: rest => readLongBasic false [] (dropLineEnd rest)
    | '"' :: rest => readBasic [] rest
    | '\'' :: '\'' :: '\'' :: rest => readLongLiteral [] (dropLineEnd rest)
    | '\'' :: rest => readLiteral rest
    | _ => none
  read.map fun (text, rest) => (String.ofList text, rest)

/-- Further digits, each of which may come after an underscore. -/
def moreDigits (isDigit : Char → Bool) : List Char → List Char × List Char
  | '_' :: c :: rest =>
    if isDigit c then
      let (digits, left) := moreDigits isDigit rest
      (c :: digits, left)
    else ([], '_' :: c :: rest)
  | c :: rest =>
    if isDigit c then
      let (digits, left) := moreDigits isDigit rest
      (c :: digits, left)
    else ([], c :: rest)
  | [] => ([], [])

/-- Digits with single underscores between them. -/
def readDigitRun (isDigit : Char → Bool) : List Char → Option (List Char × List Char)
  | c :: rest =>
    if isDigit c then
      let (digits, left) := moreDigits isDigit rest
      some (c :: digits, left)
    else none
  | [] => none

/-- The sign of a number, and whether it is a minus. -/
def readSign : List Char → Bool × List Char
  | '+' :: rest => (false, rest)
  | '-' :: rest => (true, rest)
  | cs => (false, cs)

/-- Decimal digits; a zero stands alone. -/
def readWhole : List Char → Option (List Char × List Char)
  | '0' :: rest => some (['0'], rest)
  | cs => readDigitRun Char.isDigit cs

/-- An integer of 64 bits, in one of four bases; only decimal ones have a sign. -/
def readInteger (cs : List Char) : Option (Int × List Char) :=
  let based (base : Nat) (isDigit : Char → Bool) (rest : List Char) : Option (Int × List Char) := do
    let (digits, rest) ← readDigitRun isDigit rest
    let value := Text.digitsValue base digits
    if value < Nat.pow 2 63 then some (value, rest) else none
  match cs with
  | '0' :: 'x' :: rest => based 16 Text.isHexDigit rest
  | '0' :: 'o' :: rest => based 8 (fun c => '0' ≤ c && c ≤ '7') rest
  | '0' :: 'b' :: rest => based 2 (fun c => c == '0' || c == '1') rest
  | _ => do
    let (negative, cs) := readSign cs
    let (digits, rest) ← readWhole cs
    let magnitude := Text.digitsValue 10 digits
    if negative then
      if magnitude ≤ Nat.pow 2 63 then some (-(magnitude : Int), rest) else none
    else if magnitude < Nat.pow 2 63 then some (magnitude, rest)
    else none

def readExponent (cs : List Char) : Option (Int × List Char) :=
  let digits (rest : List Char) : Option (Int × List Char) := do
    let (negative, rest) := readSign rest
    let (digits, rest) ← readDigitRun Char.isDigit rest
    let power : Int := Text.digitsValue 10 digits
    some (if negative then -power else power, rest)
  match cs with
  | 'e' :: rest => digits rest
  | 'E' :: rest => digits rest
  | _ => none

/-- A number with a fraction, an exponent or both. One that is too large is refused, while one that
is too far below zero counts as infinite. -/
def readDecimal (cs : List Char) : Option (TomlFloat × List Char) := do
  let (negative, cs) := readSign cs
  let (whole, cs) ← readWhole cs
  let (fraction, power, rest) ← match cs with
    | '.' :: cs =>
      match readDigitRun Char.isDigit cs with
      | none => none
      | some (fraction, cs) =>
        match readExponent cs with
        | some (power, rest) => some (fraction, power, rest)
        | none => some (fraction, 0, cs)
    | _ => (readExponent cs).map fun (power, rest) => ([], power, rest)
  let coefficient := Text.digitsValue 10 (whole ++ fraction)
  match Binary64.ofDecimal? negative coefficient (power - fraction.length) with
  | some value => some (.finite value, rest)
  | none => if negative then some (.infinite true, rest) else none

def readSpecial (cs : List Char) : Option (TomlFloat × List Char) :=
  let (negative, cs) := readSign cs
  match cs with
  | 'i' :: 'n' :: 'f' :: rest => some (.infinite negative, rest)
  | 'n' :: 'a' :: 'n' :: rest => some (.notANumber, rest)
  | _ => none

/-- Reads a value that is no string and holds no others. What makes a date or a decimal is tried
before what makes an integer. -/
def readScalar (cs : List Char) : Option (TomlValue × List Char) :=
  match cs with
  | 't' :: 'r' :: 'u' :: 'e' :: rest => some (.boolean true, rest)
  | 'f' :: 'a' :: 'l' :: 's' :: 'e' :: rest => some (.boolean false, rest)
  | _ =>
    match readDateTime cs with
    | some (value, rest) => some (.dateTime value, rest)
    | none =>
      match (readDecimal cs).or (readSpecial cs) with
      | some (value, rest) => some (.float value, rest)
      | none => (readInteger cs).map fun (value, rest) => (.integer value, rest)

end BuildConfig.Toml
