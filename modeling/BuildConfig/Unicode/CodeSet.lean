namespace BuildConfig.Unicode

/-- Code points from a first to a last one. -/
structure CodeRange where
  first : Nat
  last : Nat
deriving DecidableEq

/-- A set of code points, as ranges in order that neither overlap nor touch. -/
structure CodeSet where
  ranges : List CodeRange
deriving DecidableEq

def lastCode : Nat := 0x10ffff

/-- The character after another one; surrogates are no characters. -/
def next (code : Nat) : Nat :=
  if code = 0xd7ff then 0xe000 else code + 1

/-- The character before another one. -/
def previous (code : Nat) : Nat :=
  if code = 0xe000 then 0xd7ff else code - 1

namespace CodeRange

def single (code : Nat) : CodeRange := ⟨code, code⟩

def contains (range : CodeRange) (code : Nat) : Bool :=
  range.first ≤ code && code ≤ range.last

end CodeRange

/-- Joins ranges, which come in the order of their starts, where they overlap or touch. -/
def joinRanges : List CodeRange → List CodeRange
  | a :: b :: rest =>
    if b.first ≤ a.last + 1 then joinRanges (⟨a.first, max a.last b.last⟩ :: rest)
    else a :: joinRanges (b :: rest)
  | few => few
termination_by ranges => ranges.length

/-- What lies between ranges and after the last one. Where one range ends and the next one starts at
the surrogates there is nothing between them, and the characters on both sides stand for it. -/
def gapRanges : List CodeRange → List CodeRange
  | a :: b :: rest =>
    ⟨min (next a.last) (previous b.first), max (next a.last) (previous b.first)⟩ ::
      gapRanges (b :: rest)
  | [range] => if range.last < lastCode then [⟨next range.last, lastCode⟩] else []
  | [] => []

/-- What two lists of ranges share. -/
def sharedRanges : List CodeRange → List CodeRange → List CodeRange
  | a :: as, b :: bs =>
    let low := max a.first b.first
    let high := min a.last b.last
    let more :=
      if a.last < b.last then sharedRanges as (b :: bs) else sharedRanges (a :: as) bs
    if low ≤ high then ⟨low, high⟩ :: more else more
  | _, _ => []
termination_by as bs => as.length + bs.length

/-- What a first list of ranges has besides a second one. -/
def otherRanges : List CodeRange → List CodeRange → List CodeRange
  | a :: as, b :: bs =>
    if b.last < a.first then otherRanges (a :: as) bs
    else if a.last < b.first then a :: otherRanges as (b :: bs)
    else
      let more :=
        if b.last < a.last then otherRanges (⟨next b.last, a.last⟩ :: as) bs
        else otherRanges as (b :: bs)
      if a.first < b.first then ⟨a.first, previous b.first⟩ :: more else more
  | as, _ => as
termination_by as bs => as.length + bs.length

namespace CodeSet

def all : CodeSet := ⟨[⟨0, lastCode⟩]⟩

def ofRange (first last : Nat) : CodeSet := ⟨[⟨first, last⟩]⟩

def single (code : Nat) : CodeSet := ofRange code code

/-- The set of the code points of any ranges. -/
def ofRanges (ranges : List CodeRange) : CodeSet :=
  ⟨joinRanges (ranges.mergeSort fun a b => a.first ≤ b.first)⟩

def ofCodes (codes : List Nat) : CodeSet :=
  ofRanges (codes.map CodeRange.single)

def contains (set : CodeSet) (code : Nat) : Bool :=
  set.ranges.any fun range => range.contains code

def isEmpty (set : CodeSet) : Bool :=
  set.ranges.isEmpty

def isAscii (set : CodeSet) : Bool :=
  set.ranges.all fun range => range.last < 0x80

/-- The member of a set that has only one. -/
def only? (set : CodeSet) : Option Nat :=
  match set.ranges with
  | [range] => if range.first = range.last then some range.first else none
  | _ => none

def union (a b : CodeSet) : CodeSet :=
  ofRanges (a.ranges ++ b.ranges)

def unions (sets : List CodeSet) : CodeSet :=
  ofRanges (sets.flatMap ranges)

def complement (set : CodeSet) : CodeSet :=
  match set.ranges with
  | [] => all
  | range :: _ =>
    ⟨(if 0 < range.first then [⟨0, previous range.first⟩] else []) ++ gapRanges set.ranges⟩

def intersection (a b : CodeSet) : CodeSet :=
  ⟨sharedRanges a.ranges b.ranges⟩

def difference (a b : CodeSet) : CodeSet :=
  ⟨otherRanges a.ranges b.ranges⟩

def symmetricDifference (a b : CodeSet) : CodeSet :=
  (a.union b).difference (a.intersection b)

end CodeSet

end BuildConfig.Unicode
