import BuildConfig.Pattern.ByteRanges
import BuildConfig.Pattern.LiteralTree
import BuildConfig.Pattern.Regex
import Std.Data.HashMap

namespace BuildConfig.Pattern

open Unicode (CodeSet)

/-- What is kept while an automaton over bytes is made up: how many states it has, how many bytes
their lists of transitions and of successors take, and the states of the current set that can be
used once more, each in a slot with what it was made for. -/
structure Automaton where
  states : Nat
  listBytes : Nat
  slots : Std.HashMap UInt64 (List UInt64 × Nat)

namespace Automaton

def empty : Automaton := ⟨0, 0, ∅⟩

/-- What a state takes, without its lists. -/
def stateBytes : Nat := 32

/-- What a transition takes in the list of a state. -/
def transitionBytes : Nat := 8

/-- What a successor takes in the list of a state. -/
def successorBytes : Nat := 4

def size (automaton : Automaton) : Nat :=
  stateBytes * automaton.states + automaton.listBytes

/-- The size that an automaton may come to. -/
def sizeLimit : Nat := 10 * Nat.pow 2 20

end Automaton

/-- A step in making up an automaton; there is none beyond the limit of its size. -/
abbrev Building := StateT Automaton Option

namespace Building

/-- Adds states, and bytes of lists. -/
def add (states listBytes : Nat) : Building Unit := fun automaton =>
  let larger := { automaton with
    states := automaton.states + states
    listBytes := automaton.listBytes + listBytes }
  if larger.size ≤ Automaton.sizeLimit then some ((), larger) else none

def addState : Building Unit := add 1 0

/-- Adds a state and tells its number. -/
def newState (listBytes : Nat) : Building Nat := do
  let number := (← get).states
  add 1 listBytes
  return number

/-- Links a part to what comes after it. Only a part that ends in a choice has a list to enter a
successor in. -/
def link (endsInChoice : Bool) : Building Unit :=
  if endsInChoice then add 0 Automaton.successorBytes else pure ()

/-- Enters successors in the list of a choice. -/
def enter (successors : Nat) : Building Unit :=
  add 0 (Automaton.successorBytes * successors)

/-- The numbers that a state is made for, mixed into one. -/
def fingerprint (key : List UInt64) : UInt64 :=
  key.foldl (fun mixed number => (mixed ^^^ number) * 1099511628211) 14695981039346656037

def forgetStates : Building Unit :=
  modify fun automaton => { automaton with slots := ∅ }

/-- The state that was made for the same purpose, if no other one has taken its slot; else a new
one. -/
def reuse (slotCount : UInt64) (key : List UInt64) (listBytes : Nat) : Building Nat := do
  let slot := fingerprint key % slotCount
  let known := (← get).slots[slot]?
  match known with
  | some (purpose, number) => if purpose = key then return number
  | none => pure ()
  let number ← newState listBytes
  modify fun automaton => { automaton with slots := automaton.slots.insert slot (key, number) }
  return number

/-- Makes up a sequence of parts; the answer of every part tells whether it ends in a choice. -/
def inTurn : List (Building Bool) → Building Bool
  | [] => do
    addState
    return false
  | first :: others => do
    others.foldlM (fun endsInChoice part => do
      let after ← part
      link endsInChoice
      return after) (← first)

/-- More copies of a part in sequence. -/
def moreCopies (part : Building Bool) : Nat → Bool → Building Bool
  | 0, endsInChoice => return endsInChoice
  | n + 1, endsInChoice => do
    let after ← part
    link endsInChoice
    moreCopies part n after

def copies (part : Building Bool) : Nat → Building Bool
  | 0 => do
    addState
    return false
  | n + 1 => do moreCopies part n (← part)

/-- A part any number of times. If it may be empty, it is made up as an option of at least one. -/
def anyNumber (part : Building Bool) (mayBeEmpty : Bool) : Building Bool := do
  if mayBeEmpty then
    let endsInChoice ← part
    addState
    link endsInChoice
    enter 1
    add 2 0
    enter 3
    return false
  else
    addState
    let endsInChoice ← part
    enter 1
    link endsInChoice
    return true

/-- A part a number of times or more. -/
def atLeast (part : Building Bool) (mayBeEmpty : Bool) : Nat → Building Bool
  | 0 => anyNumber part mayBeEmpty
  | 1 => do
    let endsInChoice ← part
    addState
    link endsInChoice
    enter 1
    return true
  | n + 2 => do
    let before ← copies part (n + 1)
    let endsInChoice ← part
    addState
    link before
    link endsInChoice
    enter 1
    return true

/-- Options of a part, each within the one before. -/
def options (part : Building Bool) : Nat → Bool → Building Bool
  | 0, endsInChoice => do
    link endsInChoice
    return false
  | n + 1, endsInChoice => do
    addState
    let after ← part
    link endsInChoice
    enter 2
    options part n after

def between (part : Building Bool) (least greatest : Nat) : Building Bool := do
  if least = 0 ∧ greatest = 1 then
    addState
    let endsInChoice ← part
    addState
    enter 2
    link endsInChoice
    return false
  else
    let endsInChoice ← copies part least
    if least < greatest then
      addState
      options part (greatest - least) endsInChoice
    else return endsInChoice

/-- A choice of parts. -/
def choice : List (Building Bool) → Building Bool
  | first :: second :: others => do
    let firstEnd ← first
    let secondEnd ← second
    add 2 0
    enter 2
    link firstEnd
    link secondEnd
    for other in others do
      let otherEnd ← other
      enter 1
      link otherEnd
    return false
  | [only] => only
  | [] => do
    addState
    return false

/-- A choice of literals, which share their starts. -/
def literals (texts : List (List UInt8)) : Building Bool := do
  let size := (LiteralTree.ofTexts texts).size
  add (size.states + 1)
    (Automaton.transitionBytes * size.transitions + Automaton.successorBytes * size.successors)
  return false

/-- A state of a set that is not complete: the transitions that are, as numbers, and the bytes whose
target is not known yet. -/
structure Draft where
  transitions : List UInt64
  pending : Option ByteRange

namespace Draft

/-- The transitions once the target of the pending ones is known. -/
def complete (draft : Draft) (target : Nat) : List UInt64 :=
  match draft.pending with
  | some range =>
    draft.transitions ++ [range.first.toUInt64, range.last.toUInt64, target.toUInt64]
  | none => draft.transitions

/-- Makes a state for transitions, which are three numbers each. -/
def stateFor (transitions : List UInt64) : Building Nat :=
  reuse 10000 transitions (Automaton.transitionBytes * (transitions.length / 3))

/-- Makes states for drafts, each of which is the pending target of the one before; the last one
leads to the end of the set. -/
def finish (stop : Nat) : List Draft → Building Nat
  | [] => return stop
  | draft :: deeper => do
    let target ← finish stop deeper
    stateFor (draft.complete target)

/-- Adds a written form, which comes after all forms so far, to drafts that start with the first
byte. What it shares with the form before stays a draft; the rest of that form is finished. -/
def extend (stop : Nat) : List ByteRange → List Draft → Building (List Draft)
  | range :: form, draft :: deeper => do
    if draft.pending = some range then
      return draft :: (← extend stop form deeper)
    else
      let target ← finish stop deeper
      return ⟨draft.complete target, some range⟩ :: form.map fun range => ⟨[], some range⟩
  | form, _ => return form.map fun range => ⟨[], some range⟩

end Draft

/-- The written forms of a set, which are in order. States with the same transitions are shared. -/
def forms (set : List (List ByteRange)) : Building Bool := do
  let stop ← newState 0
  forgetStates
  let drafts ← set.foldlM (fun drafts form => Draft.extend stop form drafts) [⟨[], none⟩]
  let _ ← Draft.finish stop drafts
  return false

/-- The written forms of a set, read from their ends. A state for every place; forms with the same
start share the states of it. -/
def reversedForms (set : List (List ByteRange)) : Building Bool := do
  addState
  let stop ← newState 0
  forgetStates
  for form in set do
    let _ ← form.foldlM (fun target range =>
      reuse 1000 [target.toUInt64, range.first.toUInt64, range.last.toUInt64] 0) stop
    enter 1
  return false

/-- A set: all transitions in one state if it is of bytes. -/
def set (reversed : Bool) (members : CodeSet) : Building Bool :=
  if members.isAscii then do
    add 2 (Automaton.transitionBytes * members.ranges.length)
    return false
  else
    let written := writtenForms members
    if reversed then reversedForms written else forms written

end Building

namespace Regex

/-- The bytes of a literal. -/
def bytes? : Regex → Option (List UInt8)
  | .literal text => some (text.flatMap String.utf8EncodeChar)
  | _ => none

mutual

/-- Makes up the automaton of an expression, to read texts from their starts or from their ends.
Groups are only told apart from the start. -/
def build (reversed : Bool) : Regex → Building Bool
  | .empty => do
    Building.addState
    return false
  | .literal text => do
    Building.add (text.flatMap String.utf8EncodeChar).length 0
    return false
  | .oneOf members _ => Building.set reversed members
  | .look _ => do
    Building.addState
    return false
  | .repeated least greatest _ body =>
    let part := build reversed body
    match greatest with
    | some greatest => Building.between part least greatest
    | none => Building.atLeast part (body.shortest?.getD 0 = 0) least
  | .group _ body =>
    if reversed then build reversed body
    else do
      Building.addState
      let endsInChoice ← build reversed body
      Building.addState
      Building.link endsInChoice
      return false
  | .sequence parts =>
    let steps := buildEach reversed parts
    Building.inTurn (if reversed then steps.reverse else steps)
  | .choice branches =>
    let steps := buildEach reversed branches
    match branches.mapM bytes? with
    | some texts =>
      Building.literals (if reversed then texts.map List.reverse else texts)
    | none => Building.choice steps

def buildEach (reversed : Bool) : List Regex → List (Building Bool)
  | [] => []
  | part :: parts => build reversed part :: buildEach reversed parts

end

/-- Makes up the whole automaton: what skips the text before a match, unless a match has to be at
the start, the expression as a group of its own, and the state of a match. -/
def buildAll (regex : Regex) (reversed : Bool) : Building Unit := do
  let anchored := if reversed then regex.endsWith .textEnd else regex.startsWith .textStart
  if anchored then Building.addState
  else
    Building.add 3 Automaton.transitionBytes
    Building.enter 1
  let endsInChoice ← build reversed (.group 0 regex)
  Building.addState
  Building.link endsInChoice
  if !anchored then Building.enter 1

/-- The automata that read texts from their starts and from their ends keep to the limit. -/
def fits (regex : Regex) : Bool :=
  (buildAll regex false .empty).isSome && (buildAll regex true .empty).isSome

end Regex

end BuildConfig.Pattern
