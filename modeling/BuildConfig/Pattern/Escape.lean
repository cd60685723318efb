import BuildConfig.Pattern.CharacterClass
import BuildConfig.Pattern.Regex
import BuildConfig.Text.Blank
import BuildConfig.Text.Digits
import BuildConfig.Unicode.Property

namespace BuildConfig.Pattern

open Unicode (CodeSet)

/-- What follows blanks and comments; a comment runs to the end of its line. -/
def afterBlanks (inComment : Bool) : List Char → List Char
  | [] => []
  | c :: rest =>
    if inComment then afterBlanks (c != '\n') rest
    else if Text.isBlank c then afterBlanks false rest
    else if c == '#' then afterBlanks true rest
    else c :: rest

/-- In verbose patterns, blanks and comments between tokens do not count. -/
def skip (flags : Flags) (cs : List Char) : List Char :=
  if flags.verbose then afterBlanks false cs else cs

/-- The longest run of characters of a kind, with what counts after it. -/
def run (flags : Flags) (accepts : Char → Bool) (cs : List Char) : List Char × List Char :=
  go cs.length cs
where
  go : Nat → List Char → List Char × List Char
    | fuel + 1, c :: rest =>
      if accepts c then
        let (more, left) := go fuel (skip flags rest)
        (c :: more, left)
      else ([], c :: rest)
    | _, cs => ([], cs)

/-- A fixed number of hexadecimal digits. -/
def hexDigits? (flags : Flags) : Nat → List Char → Option (List Char × List Char)
  | 0, cs => some ([], cs)
  | n + 1, c :: rest =>
    if Text.isHexDigit c then
      (hexDigits? flags n (skip flags rest)).map fun (digits, left) => (c :: digits, left)
    else none
  | _ + 1, [] => none

/-- What an escape stands for. A code that is written with two hexadecimal digits is a byte where
patterns are of bytes. -/
inductive Escaped where
  | literal (code : Nat) (isByte : Bool)
  | letter (kind : LetterClass) (negated : Bool)
  | property (members : CodeSet) (negated : Bool)
  | look (condition : Look)

/-- The escape of a code of a character, after its letter. -/
def hexEscape? (flags : Flags) (count : Nat) (cs : List Char) : Option (Escaped × List Char) := do
  let (digits, isByte, rest) ← match cs with
    | '{' :: rest =>
      match run flags Text.isHexDigit (skip flags rest) with
      | ([], _) => none
      | (digits, '}' :: rest) => some (digits, false, skip flags rest)
      | _ => none
    | _ => (hexDigits? flags count cs).map fun (digits, rest) => (digits, count == 2, rest)
  let code := Text.digitsValue 16 digits
  if code.isValidChar then some (.literal code isByte, rest) else none

/-- The parts of a name before and after the first `!=`. -/
def cutUnequal? : List Char → Option (List Char × List Char)
  | '!' :: '=' :: rest => some ([], rest)
  | c :: rest => (cutUnequal? rest).map fun (before, after) => (c :: before, after)
  | [] => none

/-- A name is a property of its own, or a property and its value with `!=`, `:` or `=` between. The
first of these stands for the complement. -/
def namedProperty? (negated : Bool) (name : List Char) : Option Escaped :=
  let value (parts : List Char × List Char) (negated : Bool) : Option Escaped :=
    (Unicode.propertyValue? parts.1 parts.2).map fun members => .property members negated
  match cutUnequal? name with
  | some parts => value parts (!negated)
  | none =>
    if name.contains ':' then value (Unicode.cut ':' name) negated
    else if name.contains '=' then value (Unicode.cut '=' name) negated
    else (Unicode.property? name).map fun members => .property members negated

/-- The escape of a property, after its letter. Patterns of bytes have none. -/
def propertyEscape? (flags : Flags) (negated : Bool) (cs : List Char) :
    Option (Escaped × List Char) :=
  if !flags.unicode then none
  else match cs with
    | '{' :: rest =>
      match run flags (· != '}') (skip flags rest) with
      | (name, '}' :: rest) => (namedProperty? negated name).map fun escaped => (escaped, rest)
      | _ => none
    | '\\' :: _ => none
    | c :: rest =>
      (Unicode.property? [c]).map fun members => (.property members negated, skip flags rest)
    | [] => none

/-- Word boundaries with a name in braces. A brace that starts anything else is left alone. -/
def boundaryEscape? (flags : Flags) (cs : List Char) : Option (Escaped × List Char) :=
  let isNameChar (c : Char) : Bool := c.isAlpha || c == '-'
  match cs with
  | '{' :: rest =>
    match skip flags rest with
    | [] => none
    | c :: more =>
      if isNameChar c then
        match run flags isNameChar (c :: more) with
        | (name, '}' :: left) =>
          match String.ofList name with
          | "start" => some (.look (.wordStart flags.unicode), left)
          | "end" => some (.look (.wordEnd flags.unicode), left)
          | "start-half" => some (.look (.wordStartHalf flags.unicode), left)
          | "end-half" => some (.look (.wordEndHalf flags.unicode), left)
          | _ => none
        | _ => none
      else some (.look (.wordBoundary flags.unicode), cs)
  | _ => some (.look (.wordBoundary flags.unicode), cs)

/-- ASCII characters that stand for themselves after a backslash: all but letters, digits and angle
brackets. -/
def isEscapable (c : Char) : Bool :=
  c.toNat < 128 && !c.isAlphanum && c != '<' && c != '>'

/-- Reads an escape, after its backslash. Letters without a meaning and back references are
refused. -/
def escape? (flags : Flags) : List Char → Option (Escaped × List Char)
  | [] => none
  | c :: rest =>
    let literal (code : Nat) : Option (Escaped × List Char) := some (.literal code false, rest)
    let letter (kind : LetterClass) (negated : Bool) : Option (Escaped × List Char) :=
      some (.letter kind negated, rest)
    match c with
    | 'x' => hexEscape? flags 2 (skip flags rest)
    | 'u' => hexEscape? flags 4 (skip flags rest)
    | 'U' => hexEscape? flags 8 (skip flags rest)
    | 'p' => propertyEscape? flags false (skip flags rest)
    | 'P' => propertyEscape? flags true (skip flags rest)
    | 'd' => letter .digit false
    | 'D' => letter .digit true
    | 's' => letter .space false
    | 'S' => letter .space true
    | 'w' => letter .word false
    | 'W' => letter .word true
    | 'a' => literal 0x07
    | 'f' => literal 0x0c
    | 't' => literal 0x09
    | 'n' => literal 0x0a
    | 'r' => literal 0x0d
    | 'v' => literal 0x0b
    | 'A' => some (.look .textStart, rest)
    | 'z' => some (.look .textEnd, rest)
    | 'b' => boundaryEscape? flags rest
    | 'B' => some (.look (.noWordBoundary flags.unicode), rest)
    | '<' => some (.look (.wordStart flags.unicode), rest)
    | '>' => some (.look (.wordEnd flags.unicode), rest)
    | _ => if isEscapable c then literal c.toNat else none

end BuildConfig.Pattern
