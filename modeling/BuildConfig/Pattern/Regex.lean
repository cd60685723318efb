import BuildConfig.Unicode.CodeSet

namespace BuildConfig.Pattern

open Unicode (CodeSet)

/-- A condition on a place between characters. Conditions on words know all word characters, or the
ASCII ones only. -/
inductive Look where
  | textStart
  | textEnd
  | lineStart
  | lineEnd
  | crlfLineStart
  | crlfLineEnd
  | wordBoundary (unicode : Bool)
  | noWordBoundary (unicode : Bool)
  | wordStart (unicode : Bool)
  | wordEnd (unicode : Bool)
  | wordStartHalf (unicode : Bool)
  | wordEndHalf (unicode : Bool)
deriving DecidableEq

/-- A regular expression. A literal holds a character at least; a set is of characters or of ASCII
bytes; repetition is from a least to an optional greatest count; groups are numbered. The functions
below build expressions in which sequences hold no sequences and choices no choices. -/
inductive Regex where
  | empty
  | literal (text : List Char)
  | oneOf (members : CodeSet) (ofBytes : Bool)
  | look (condition : Look)
  | repeated (least : Nat) (greatest : Option Nat) (greedy : Bool) (body : Regex)
  | group (index : Nat) (body : Regex)
  | sequence (parts : List Regex)
  | choice (branches : List Regex)

namespace Regex

mutual

/-- Two expressions are written alike. -/
def same : Regex → Regex → Bool
  | .empty, .empty => true
  | .literal a, .literal b => a == b
  | .oneOf a ofBytes, .oneOf b ofBytes' => a == b && ofBytes == ofBytes'
  | .look a, .look b => a == b
  | .repeated least greatest greedy a, .repeated least' greatest' greedy' b =>
    least == least' && greatest == greatest' && greedy == greedy' && same a b
  | .group i a, .group j b => i == j && same a b
  | .sequence as, .sequence bs => sameEach as bs
  | .choice as, .choice bs => sameEach as bs
  | _, _ => false

def sameEach : List Regex → List Regex → Bool
  | [], [] => true
  | a :: as, b :: bs => same a b && sameEach as bs
  | _, _ => false

end

mutual

/-- The least number of characters in a match; there is none where nothing can match. -/
def shortest? : Regex → Option Nat
  | .empty => some 0
  | .literal text => some text.length
  | .oneOf members _ => if members.isEmpty then none else some 1
  | .look _ => some 0
  | .repeated least _ _ body => (shortest? body).map (· * least)
  | .group _ body => shortest? body
  | .sequence parts => shortestInTurn? parts
  | .choice branches => shortestOf? branches

def shortestInTurn? : List Regex → Option Nat
  | [] => some 0
  | part :: parts => do return (← shortest? part) + (← shortestInTurn? parts)

/-- A branch where nothing can match leaves the choice without an answer. -/
def shortestOf? : List Regex → Option Nat
  | [] => none
  | [branch] => shortest? branch
  | branch :: branches => do return min (← shortest? branch) (← shortestOf? branches)

end

mutual

/-- No match holds a character, and something can match. -/
def isWidthless : Regex → Bool
  | .empty => true
  | .literal text => text.isEmpty
  | .oneOf _ _ => false
  | .look _ => true
  | .repeated _ _ _ body => isWidthless body
  | .group _ body => isWidthless body
  | .sequence parts => allWidthless parts
  | .choice branches => allWidthless branches

def allWidthless : List Regex → Bool
  | [] => true
  | part :: parts => isWidthless part && allWidthless parts

end

mutual

/-- A condition that every match has to meet at its start. -/
def startsWith (condition : Look) : Regex → Bool
  | .look found => found == condition
  | .repeated least _ _ body => least != 0 && startsWith condition body
  | .group _ body => startsWith condition body
  | .sequence parts => sequenceStartsWith condition parts
  | .choice branches => eachStartsWith condition branches
  | _ => false

def sequenceStartsWith (condition : Look) : List Regex → Bool
  | [] => false
  | part :: parts =>
    startsWith condition part || (isWidthless part && sequenceStartsWith condition parts)

def eachStartsWith (condition : Look) : List Regex → Bool
  | [] => true
  | branch :: branches => startsWith condition branch && eachStartsWith condition branches

end

mutual

/-- A condition that every match has to meet at its end. -/
def endsWith (condition : Look) : Regex → Bool
  | .look found => found == condition
  | .repeated least _ _ body => least != 0 && endsWith condition body
  | .group _ body => endsWith condition body
  | .sequence parts => sequenceEndsWith condition parts
  | .choice branches => eachEndsWith condition branches
  | _ => false

def sequenceEndsWith (condition : Look) : List Regex → Bool
  | [] => false
  | part :: parts =>
    sequenceEndsWith condition parts || (allWidthless parts && endsWith condition part)

def eachEndsWith (condition : Look) : List Regex → Bool
  | [] => true
  | branch :: branches => endsWith condition branch && eachEndsWith condition branches

end

/-- A set; one of a single member is a literal. -/
def ofSet (ofBytes : Bool) (members : CodeSet) : Regex :=
  match members.only? with
  | some code => .literal [Char.ofNat code]
  | none => .oneOf members (ofBytes || members.isEmpty)

/-- Repeats an expression; what has no width is not repeated more than once. -/
def times (least : Nat) (greatest : Option Nat) (greedy : Bool) (body : Regex) : Regex :=
  let (least, greatest) :=
    if body.isWidthless then (min least 1, some (min (greatest.getD 1) 1)) else (least, greatest)
  if greatest = some 0 then .empty
  else if least = 1 ∧ greatest = some 1 then body
  else .repeated least greatest greedy body

def parts : Regex → List Regex
  | .empty => []
  | .sequence parts => parts
  | part => [part]

/-- Puts a part before others, literals in one piece. -/
def consPart : Regex → List Regex → List Regex
  | .literal a, .literal b :: rest => .literal (a ++ b) :: rest
  | part, rest => part :: rest

/-- Expressions one after the other. -/
def inTurn (expressions : List Regex) : Regex :=
  match (expressions.flatMap parts).foldr consPart [] with
  | [] => .empty
  | [only] => only
  | parts => .sequence parts

def branches : Regex → List Regex
  | .choice branches => branches
  | branch => [branch]

/-- The character of a literal that has only one. -/
def character? : Regex → Option Nat
  | .literal [c] => some c.toNat
  | _ => none

def members? : Regex → Option CodeSet
  | .oneOf members _ => some members
  | _ => none

def parts? : Regex → Option (List Regex)
  | .sequence parts => some parts
  | _ => none

/-- Branches that are all single characters, or all sets, are one set. -/
def asOneSet? (branches : List Regex) : Option CodeSet :=
  ((branches.mapM character?).map CodeSet.ofCodes) <|> ((branches.mapM members?).map CodeSet.unions)

/-- A choice of branches, which is a set where it can be one. -/
def choiceOf (branches : List Regex) : Regex :=
  match branches with
  | [only] => only
  | _ =>
    match asOneSet? branches with
    | some members => ofSet false members
    | none => .choice branches

def commonStart : List Regex → List Regex → List Regex
  | a :: as, b :: bs => if a.same b then a :: commonStart as bs else []
  | _, _ => []

/-- The parts that sequences have in common at their start. -/
def commonParts : List (List Regex) → List Regex
  | [] => []
  | first :: others => others.foldl commonStart first

/-- Expressions to choose from. Sequences that start with the same parts share them; no common start
is left then, as a choice within a choice has none of its own. -/
def oneOfAll (expressions : List Regex) : Regex :=
  let alternatives := expressions.flatMap branches
  match choiceOf alternatives with
  | .choice alternatives =>
    match alternatives.mapM parts? with
    | some sequences =>
      let common := commonParts sequences
      if common.isEmpty then .choice alternatives
      else
        let rests := sequences.map fun parts => inTurn (parts.drop common.length)
        inTurn (common ++ [choiceOf (rests.flatMap branches)])
    | none => .choice alternatives
  | merged => merged

end Regex

end BuildConfig.Pattern
