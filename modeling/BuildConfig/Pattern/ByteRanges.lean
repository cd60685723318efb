import BuildConfig.Unicode.CodeSet

namespace BuildConfig.Pattern

open Unicode (CodeRange CodeSet)

/-- Bytes from a first to a last one. -/
structure ByteRange where
  first : UInt8
  last : UInt8
deriving DecidableEq

/-- The characters that are written in the same number of bytes, in order. Surrogates are not among
them. -/
def bands : List CodeRange :=
  [⟨0, 0x7f⟩, ⟨0x80, 0x7ff⟩, ⟨0x800, 0xd7ff⟩, ⟨0xe000, 0xffff⟩, ⟨0x10000, 0x10ffff⟩]

/-- Where a range within a band is parted. A part has ends that differ in a byte only if all bytes
after it run from the least to the greatest. -/
def partingPoint? (first last : Nat) : Option Nat :=
  [0x40, 0x1000, 0x40000].findSome? fun block =>
    if first / block = last / block then none
    else if first % block ≠ 0 then some ((first / block + 1) * block)
    else if last % block ≠ block - 1 then some (last / block * block)
    else none

/-- Parts a range until every part is written with bytes from one range in each place. -/
def parted (first last : Nat) : List CodeRange :=
  match partingPoint? first last with
  | some point =>
    if point ≤ first ∨ last < point then [⟨first, last⟩]
    else parted first (point - 1) ++ parted point last
  | none => [⟨first, last⟩]
termination_by last - first

def utf8 (code : Nat) : List UInt8 :=
  String.utf8EncodeChar (Char.ofNat code)

/-- The ranges of bytes in each place that a range of characters is written with. -/
def byteRanges (range : CodeRange) : List ByteRange :=
  List.zipWith ByteRange.mk (utf8 range.first) (utf8 range.last)

/-- The ways to write the characters of a set, in the order of the bytes. -/
def writtenForms (set : CodeSet) : List (List ByteRange) :=
  (Unicode.sharedRanges set.ranges bands).flatMap fun range =>
    (parted range.first range.last).map byteRanges

end BuildConfig.Pattern
