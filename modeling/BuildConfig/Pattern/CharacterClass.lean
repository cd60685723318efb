import BuildConfig.Unicode.CaseFolding
import BuildConfig.Unicode.Derived

namespace BuildConfig.Pattern

open Unicode (CodeRange CodeSet)

/-- What a group of flags sets for the part of a pattern that it governs. -/
structure Flags where
  ignoreCase : Bool
  multiLine : Bool
  dotAll : Bool
  unicode : Bool
  crlf : Bool
  verbose : Bool
  swapGreed : Bool

/-- The flags that a pattern starts with. -/
def Flags.start : Flags := ⟨false, false, false, true, false, false, false⟩

/-- The classes with a name between `[:` and `:]`; they hold ASCII characters only. -/
inductive NamedClass where
  | alnum | alpha | ascii | blank | cntrl | digit | graph | lower | print | punct | space | upper
  | word | xdigit

namespace NamedClass

def ofName? (name : String) : Option NamedClass :=
  Option.map Prod.snd (List.find? (fun entry => entry.1 == name)
    [("alnum", alnum), ("alpha", alpha), ("ascii", ascii), ("blank", blank), ("cntrl", cntrl),
      ("digit", digit), ("graph", graph), ("lower", lower), ("print", print), ("punct", punct),
      ("space", space), ("upper", upper), ("word", word), ("xdigit", xdigit)])

def members (kind : NamedClass) : CodeSet :=
  ⟨ranges kind⟩
where
  ranges : NamedClass → List CodeRange
    | alnum => [⟨0x30, 0x39⟩, ⟨0x41, 0x5a⟩, ⟨0x61, 0x7a⟩]
    | alpha => [⟨0x41, 0x5a⟩, ⟨0x61, 0x7a⟩]
    | ascii => [⟨0x00, 0x7f⟩]
    | blank => [⟨0x09, 0x09⟩, ⟨0x20, 0x20⟩]
    | cntrl => [⟨0x00, 0x1f⟩, ⟨0x7f, 0x7f⟩]
    | digit => [⟨0x30, 0x39⟩]
    | graph => [⟨0x21, 0x7e⟩]
    | lower => [⟨0x61, 0x7a⟩]
    | print => [⟨0x20, 0x7e⟩]
    | punct => [⟨0x21, 0x2f⟩, ⟨0x3a, 0x40⟩, ⟨0x5b, 0x60⟩, ⟨0x7b, 0x7e⟩]
    | space => [⟨0x09, 0x0d⟩, ⟨0x20, 0x20⟩]
    | upper => [⟨0x41, 0x5a⟩]
    | word => [⟨0x30, 0x39⟩, ⟨0x41, 0x5a⟩, ⟨0x5f, 0x5f⟩, ⟨0x61, 0x7a⟩]
    | xdigit => [⟨0x30, 0x39⟩, ⟨0x41, 0x46⟩, ⟨0x61, 0x66⟩]

end NamedClass

/-- The classes with an escape of one letter. -/
inductive LetterClass where
  | digit
  | space
  | word

/-- Without the Unicode flag the classes hold ASCII characters only. -/
def LetterClass.members (unicode : Bool) : LetterClass → CodeSet
  | .digit => if unicode then Unicode.digit else NamedClass.digit.members
  | .space => if unicode then Unicode.whiteSpace else NamedClass.space.members
  | .word => if unicode then Unicode.word else NamedClass.word.members

/-- How two sets in brackets are combined. -/
inductive SetOperator where
  | intersection
  | difference
  | symmetricDifference

def SetOperator.apply : SetOperator → CodeSet → CodeSet → CodeSet
  | .intersection => CodeSet.intersection
  | .difference => CodeSet.difference
  | .symmetricDifference => CodeSet.symmetricDifference

mutual

/-- A part of a set in brackets. -/
inductive ClassItem where
  | range (first last : Nat)
  | letter (kind : LetterClass) (negated : Bool)
  | named (name : NamedClass) (negated : Bool)
  | property (members : CodeSet) (negated : Bool)
  | bracketed (negated : Bool) (set : ClassSet)

/-- The items of a set, or two sets combined. -/
inductive ClassSet where
  | union (items : List ClassItem)
  | combine (operator : SetOperator) (left right : ClassSet)

end

/-- A set with all variants of its members when case is ignored. Without the Unicode flag only ASCII
letters have variants. -/
def Flags.closure (flags : Flags) (set : CodeSet) : CodeSet :=
  if !flags.ignoreCase then set
  else if flags.unicode then set.caseClosure
  else set.asciiCaseClosure

/-- The complement of a set if it is asked for. Without the Unicode flag it would hold bytes beyond
ASCII; patterns match text, so there is none. -/
def Flags.complementIf? (flags : Flags) (negated : Bool) (set : CodeSet) : Option CodeSet :=
  if !negated then some set
  else if flags.unicode then some set.complement
  else none

mutual

/-- The characters of an item. Case variants come in before the complement is taken, and before sets
are combined. -/
def ClassItem.members? (flags : Flags) : ClassItem → Option CodeSet
  | .range first last => some (.ofRange first last)
  | .letter kind negated => flags.complementIf? negated (kind.members flags.unicode)
  | .named name negated => flags.complementIf? negated (flags.closure name.members)
  | .property members negated => flags.complementIf? negated (flags.closure members)
  | .bracketed negated set => do
    let members ← set.members? flags
    flags.complementIf? negated (flags.closure members)

def ClassSet.members? (flags : Flags) : ClassSet → Option CodeSet
  | .union items => (eachMembers? flags items).map CodeSet.unions
  | .combine operator left right => do
    let left ← left.members? flags
    let right ← right.members? flags
    some (operator.apply (flags.closure left) (flags.closure right))

def eachMembers? (flags : Flags) : List ClassItem → Option (List CodeSet)
  | [] => some []
  | item :: rest => do
    let members ← item.members? flags
    let others ← eachMembers? flags rest
    some (members :: others)

end

end BuildConfig.Pattern
