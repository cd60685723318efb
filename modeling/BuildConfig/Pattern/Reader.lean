import BuildConfig.Pattern.Automaton
import BuildConfig.Pattern.Brackets
import BuildConfig.Pattern.Matching

namespace BuildConfig.Pattern

open Unicode (CodeSet)

/-- A part of a pattern, with how deeply it is nested. The setting of flags is a part that cannot be
repeated. -/
structure Piece where
  regex : Regex
  depth : Nat
  isSetting : Bool

namespace Piece

def nothing : Piece := ⟨.empty, 0, false⟩

def setting : Piece := { nothing with isSetting := true }

/-- The depth around the deepest of some parts. -/
def depthAround (pieces : List Piece) : Nat :=
  pieces.foldl (fun depth piece => max depth piece.depth) 0 + 1

/-- Parts one after the other. -/
def concat : List Piece → Piece
  | [] => nothing
  | [only] => only
  | pieces => ⟨.inTurn (pieces.map Piece.regex), depthAround pieces, false⟩

/-- Parts to choose from. -/
def choice : List Piece → Piece
  | [only] => only
  | pieces => ⟨.oneOfAll (pieces.map Piece.regex), depthAround pieces, false⟩

/-- A part in parentheses, which has a number if it is a group to capture. -/
def group (index : Option Nat) (body : Piece) : Piece :=
  let regex := match index with
    | some index => .group index body.regex
    | none => body.regex
  ⟨regex, body.depth + 1, false⟩

def repeated (least : Nat) (greatest : Option Nat) (greedy : Bool) (body : Piece) : Piece :=
  ⟨body.regex.times least greatest greedy, body.depth + 1, false⟩

def ofRegex (regex : Regex) : Piece := ⟨regex, 0, false⟩

/-- A single character, with its case variants when case is ignored. A byte beyond ASCII is no
text. -/
def literal? (flags : Flags) (code : Nat) (isByte : Bool) : Option Piece :=
  if !flags.unicode && isByte && 128 ≤ code then none
  else some (ofRegex (.ofSet (!flags.unicode) (flags.closure (.single code))))

def ofClass? (flags : Flags) (item : ClassItem) (depth : Nat) : Option Piece :=
  (item.members? flags).map fun members => ⟨.ofSet (!flags.unicode) members, depth, false⟩

def ofEscape? (flags : Flags) : Escaped → Option Piece
  | .literal code isByte => literal? flags code isByte
  | .letter kind negated => ofClass? flags (.letter kind negated) 0
  | .property members negated => ofClass? flags (.property members negated) 0
  | .look condition => some (ofRegex (.look condition))

/-- Any character but the end of a line. A pattern of bytes would match any byte, which is no
text. -/
def dot? (flags : Flags) : Option Piece :=
  let lineEnds : List Nat :=
    if flags.dotAll then [] else if flags.crlf then [0x0a, 0x0d] else [0x0a]
  if flags.unicode then some (ofRegex (.ofSet false (CodeSet.ofCodes lineEnds).complement))
  else none

def lineStart (flags : Flags) : Piece :=
  ofRegex (.look (if !flags.multiLine then .textStart
    else if flags.crlf then .crlfLineStart else .lineStart))

def lineEnd (flags : Flags) : Piece :=
  ofRegex (.look (if !flags.multiLine then .textEnd
    else if flags.crlf then .crlfLineEnd else .lineEnd))

end Piece

/-- A decimal count, with blanks around it, below 2 ^ 32. -/
def count? (flags : Flags) (cs : List Char) : Option (Nat × List Char) :=
  let (digits, rest) := run flags Char.isDigit (cs.dropWhile Text.isBlank)
  let count := Text.digitsValue 10 digits
  if digits.isEmpty || Nat.pow 2 32 ≤ count then none
  else some (count, (run flags Text.isBlank rest).2)

/-- Reads the counts of a repetition, after its brace: exactly, at least, or between. -/
def counts? (flags : Flags) (cs : List Char) : Option (Nat × Option Nat × List Char) := do
  let (least, rest) ← count? flags (skip flags cs)
  let (greatest, rest) ← match rest with
    | ',' :: rest =>
      match skip flags rest with
      | '}' :: rest => some (none, '}' :: rest)
      | more => (count? flags more).map fun (greatest, rest) => (some greatest, rest)
    | rest => some (some least, rest)
  match rest with
  | '}' :: rest =>
    if greatest.all (least ≤ ·) then some (least, greatest, skip flags rest) else none
  | _ => none

/-- A question mark after a repetition asks for the shortest match, or for the longest one where the
flags swap the two. -/
def greed (flags : Flags) : List Char → Bool × List Char
  | '?' :: rest => (flags.swapGreed, rest)
  | rest => (!flags.swapGreed, rest)

/-- Repeats the latest part; there has to be one, and it must not be a setting of flags. -/
def repeatLatest? (least : Nat) (greatest : Option Nat) (greedy : Bool) :
    List Piece → Option (List Piece)
  | [] => none
  | latest :: earlier =>
    if latest.isSetting then none else some (latest.repeated least greatest greedy :: earlier)

/-- Reads flags up to a colon or a closing parenthesis. None may come twice, and a minus sign
needs a flag after it. -/
def flags? (seen : List Char) (flags : Flags) : List Char → Option (Flags × Bool × List Char)
  | [] => none
  | c :: rest =>
    if c == ':' || c == ')' then
      if seen.head? == some '-' then none else some (flags, !seen.isEmpty, c :: rest)
    else if seen.contains c then none
    else
      let on := !seen.contains '-'
      match c with
      | '-' => flags? (c :: seen) flags rest
      | 'i' => flags? (c :: seen) { flags with ignoreCase := on } rest
      | 'm' => flags? (c :: seen) { flags with multiLine := on } rest
      | 's' => flags? (c :: seen) { flags with dotAll := on } rest
      | 'U' => flags? (c :: seen) { flags with swapGreed := on } rest
      | 'u' => flags? (c :: seen) { flags with unicode := on } rest
      | 'R' => flags? (c :: seen) { flags with crlf := on } rest
      | 'x' => flags? (c :: seen) { flags with verbose := on } rest
      | _ => none

def isNameStart (c : Char) : Bool :=
  c == '_' || Unicode.alphabetic.contains c.toNat

def isNameChar (c : Char) : Bool :=
  c == '_' || c == '.' || c == '[' || c == ']' || Unicode.alphanumeric.contains c.toNat

/-- The groups to capture that have been opened so far, with the names that some of them have. -/
structure Groups where
  count : Nat
  names : List String

/-- Reads the name of a group, after its bracket. No two groups share a name. -/
def groupName? (names : List String) (cs : List Char) : Option (String × List Char) :=
  match cs.span (· != '>') with
  | (first :: more, '>' :: rest) =>
    let name := String.ofList (first :: more)
    if isNameStart first && more.all isNameChar && !names.contains name then some (name, rest)
    else none
  | _ => none

/-- What an opening parenthesis leads to: a group with its flags and its number, if it has one, or a
setting of flags for the rest of the group around it. -/
inductive Opening where
  | group (flags : Flags) (index : Option Nat) (groups : Groups) (rest : List Char)
  | setting (flags : Flags) (rest : List Char)

/-- Reads what comes after an opening parenthesis. There is no looking ahead or behind. -/
def opening? (flags : Flags) (groups : Groups) (cs : List Char) : Option Opening :=
  let index := groups.count + 1
  let named (rest : List Char) : Option Opening :=
    (groupName? groups.names rest).map fun (name, rest) =>
      .group flags (some index) ⟨index, name :: groups.names⟩ rest
  match skip flags cs with
  | '?' :: '=' :: _ => none
  | '?' :: '!' :: _ => none
  | '?' :: '<' :: '=' :: _ => none
  | '?' :: '<' :: '!' :: _ => none
  | '?' :: 'P' :: '<' :: rest => named rest
  | '?' :: '<' :: rest => named rest
  | '?' :: rest =>
    match flags? [] flags rest with
    | some (inner, _, ':' :: rest) => some (.group inner none groups rest)
    | some (inner, true, _ :: rest) => some (.setting inner rest)
    | _ => none
  | rest => some (.group flags (some index) { groups with count := index } rest)

/-- Reads alternatives up to a closing parenthesis or the end: parts so far, latest first, and the
alternatives before them. Each step takes a character, so the length of the text bounds them. -/
def body? : Nat → Flags → Groups → List Piece → List Piece → List Char →
    Option (Piece × Groups × List Char)
  | 0, _, _, _, _, _ => none
  | fuel + 1, flags, groups, pieces, alternatives, cs =>
    let finish (rest : List Char) : Option (Piece × Groups × List Char) :=
      some (Piece.choice (Piece.concat pieces.reverse :: alternatives).reverse, groups, rest)
    let add (piece : Piece) (rest : List Char) :=
      body? fuel flags groups (piece :: pieces) alternatives rest
    let repetition (least : Nat) (greatest : Option Nat) (rest : List Char) :=
      let (greedy, rest) := greed flags rest
      (repeatLatest? least greatest greedy pieces).bind fun pieces =>
        body? fuel flags groups pieces alternatives rest
    match skip flags cs with
    | [] => finish []
    | ')' :: rest => finish (')' :: rest)
    | '|' :: rest =>
      body? fuel flags groups [] (Piece.concat pieces.reverse :: alternatives) rest
    | '(' :: rest =>
      match opening? flags groups rest with
      | none => none
      | some (.setting inner rest) =>
        body? fuel inner groups (.setting :: pieces) alternatives rest
      | some (.group inner index groups rest) =>
        match body? fuel inner groups [] [] rest with
        | some (inside, groups, ')' :: rest) =>
          body? fuel flags groups (inside.group index :: pieces) alternatives rest
        | _ => none
    | '[' :: rest =>
      (brackets? flags rest).bind fun (set, rest) =>
        (Piece.ofClass? flags set.value set.depth).bind fun piece => add piece rest
    | '?' :: rest => repetition 0 (some 1) rest
    | '*' :: rest => repetition 0 none rest
    | '+' :: rest => repetition 1 none rest
    | '{' :: rest =>
      (counts? flags rest).bind fun (least, greatest, rest) => repetition least greatest rest
    | '\\' :: rest =>
      (escape? flags rest).bind fun (escaped, rest) =>
        (Piece.ofEscape? flags escaped).bind fun piece => add piece rest
    | '.' :: rest => (Piece.dot? flags).bind fun piece => add piece rest
    | '^' :: rest => add (.lineStart flags) rest
    | '$' :: rest => add (.lineEnd flags) rest
    | c :: rest => (Piece.literal? flags c.toNat false).bind fun piece => add piece rest

/-- The deepest nesting of a pattern. -/
def depthLimit : Nat := 250

/-- Reads a pattern. One that is nested too deeply or too large is refused. -/
def read? (source : String) : Option Regex :=
  let cs := source.toList
  match body? (cs.length + 1) .start ⟨0, []⟩ [] [] cs with
  | some (piece, _, []) =>
    if piece.depth ≤ depthLimit && piece.regex.fits then some piece.regex else none
  | _ => none

/-- The source is a pattern. -/
def isValid (source : String) : Bool :=
  (read? source).isSome

/-- Whether the pattern matches somewhere in a text. There is no answer for a source that is no
pattern. -/
def matches? (source text : String) : Option Bool :=
  (read? source).map fun regex => regex.matchesIn text.toList

end BuildConfig.Pattern
