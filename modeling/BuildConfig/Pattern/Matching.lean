import BuildConfig.Pattern.Regex
import BuildConfig.Unicode.Derived

namespace BuildConfig.Pattern

/-- A character of words: of all scripts, or an ASCII one. -/
def isWordChar (unicode : Bool) (c : Char) : Bool :=
  if unicode then Unicode.word.contains c.toNat else c.isAlphanum || c == '_'

/-- Whether a condition holds between the characters before and after a place. The characters before
are given nearest first. -/
def Look.holds (before after : List Char) : Look → Bool
  | .textStart => before.isEmpty
  | .textEnd => after.isEmpty
  | .lineStart => before.isEmpty || before.head? == some '\n'
  | .lineEnd => after.isEmpty || after.head? == some '\n'
  | .crlfLineStart =>
    before.isEmpty || before.head? == some '\n' ||
      (before.head? == some '\r' && after.head? != some '\n')
  | .crlfLineEnd =>
    after.isEmpty || after.head? == some '\r' ||
      (after.head? == some '\n' && before.head? != some '\r')
  | .wordBoundary unicode => inWord unicode before != inWord unicode after
  | .noWordBoundary unicode => inWord unicode before == inWord unicode after
  | .wordStart unicode => !inWord unicode before && inWord unicode after
  | .wordEnd unicode => inWord unicode before && !inWord unicode after
  | .wordStartHalf unicode => !inWord unicode before
  | .wordEndHalf unicode => !inWord unicode after
where
  inWord (unicode : Bool) (side : List Char) : Bool := side.head?.any (isWordChar unicode)

/-- Places in a text, as a marker for each, from the start to the end. -/
abbrev Places := List Bool

def unite (a b : Places) : Places :=
  List.zipWith (· || ·) a b

/-- From each marked place over one accepted character to the next. -/
def stepOver (accepts : Char → Bool) : List Char → Places → Places
  | c :: rest, marked :: places => (marked && accepts c) :: stepOver accepts rest places
  | _, _ => []

/-- From each marked place over a literal. -/
def stepOverAll (text chars : List Char) (places : Places) : Places :=
  chars.foldl (fun places c => false :: stepOver (· == c) text places) places

/-- The marked places at which a condition holds. -/
def filterPlaces (condition : Look) : List Char → List Char → Places → Places
  | before, after, marked :: places =>
    (marked && condition.holds before after) ::
      match after with
      | c :: rest => filterPlaces condition (c :: before) rest places
      | [] => []
  | _, _, [] => []

/-- A step taken a number of times. -/
def iterate (step : Places → Places) : Nat → Places → Places
  | 0, places => places
  | n + 1, places => iterate step n (step places)

/-- The places reached by at most a number of steps. -/
def reach (step : Places → Places) : Nat → Places → Places
  | 0, places => places
  | n + 1, places => unite places (reach step n (step places))

namespace Regex

mutual

/-- The places where a match can end that starts at a marked place. Steps never lead back, so after
as many of them as there are places a further one changes nothing. -/
def ends (text : List Char) : Regex → Places → Places
  | .empty, places => places
  | .literal chars, places => stepOverAll text chars places
  | .oneOf members _, places => false :: stepOver (fun c => members.contains c.toNat) text places
  | .look condition, places => filterPlaces condition [] text places
  | .repeated least greatest _ body, places =>
    let bound := text.length + 1
    let step := ends text body
    let more := match greatest with
      | some greatest => min (greatest - least) bound
      | none => bound
    reach step more (iterate step (min least bound) places)
  | .group _ body, places => ends text body places
  | .sequence parts, places => endsInTurn text parts places
  | .choice branches, places => endsOfAny text branches places

def endsInTurn (text : List Char) : List Regex → Places → Places
  | [], places => places
  | part :: parts, places => endsInTurn text parts (ends text part places)

def endsOfAny (text : List Char) : List Regex → Places → Places
  | [], places => places.map fun _ => false
  | branch :: branches, places => unite (ends text branch places) (endsOfAny text branches places)

end

/-- The expression matches somewhere in the text. -/
def matchesIn (regex : Regex) (text : List Char) : Bool :=
  (ends text regex (List.replicate (text.length + 1) true)).any id

end Regex

end BuildConfig.Pattern
