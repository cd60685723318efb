import BuildConfig.Entries
import BuildConfig.Json
import BuildConfig.Json.Grammar

namespace BuildConfig

namespace JsonText

/-- The character of an escape of one letter. -/
def escapedChar (c : Char) : Char :=
  match c with
  | 'b' => '\x08'
  | 'f' => '\x0c'
  | 'n' => '\n'
  | 'r' => '\r'
  | 't' => '\t'
  | other => other

/-- What an escaped string denotes. A code in the upper half of a surrogate pair, which is kept
until the next step, needs one of the lower half right after it, and there is no other use of
either. -/
def unescape? (high : Option Nat) (read : List Char) : List Char → Option (List Char)
  | '\\' :: 'u' :: a :: b :: c :: d :: rest =>
    let code := Text.digitsValue 16 [a, b, c, d]
    let isLow : Bool := 0xdc00 ≤ code && code < 0xe000
    match high with
    | some high =>
      if isLow then
        unescape? none (Char.ofNat (0x10000 + (high - 0xd800) * 0x400 + (code - 0xdc00)) :: read)
          rest
      else none
    | none =>
      if isLow then none
      else if 0xd800 ≤ code && code < 0xdc00 then unescape? (some code) read rest
      else unescape? none (Char.ofNat code :: read) rest
  | '\\' :: c :: rest =>
    if high.isSome then none else unescape? none (escapedChar c :: read) rest
  | c :: rest => if high.isSome then none else unescape? none (c :: read) rest
  | [] => if high.isSome then none else some read.reverse

def textOf? (escaped : List Char) : Option String :=
  (unescape? none [] escaped).map String.ofList

mutual

/-- The document that a text denotes, if no array or object in it is nested deeper than the given
number. Of members with one name the first fixes the place and the last the value. -/
def toJson? (depth : Nat) : JsonText → Option Json
  | .null => some .null
  | .bool value => some (.bool value)
  | .number numeral => (Number.ofNumeral? numeral).map .number
  | .string escaped => (textOf? escaped).map .string
  | .array items =>
    if depth = 0 then none else (itemsToJson? (depth - 1) items).map .array
  | .object members =>
    if depth = 0 then none else (membersToJson? (depth - 1) [] members).map .object

def itemsToJson? (depth : Nat) : List JsonText → Option (List Json)
  | [] => some []
  | item :: rest => do
    let item ← item.toJson? depth
    let rest ← itemsToJson? depth rest
    some (item :: rest)

def membersToJson? (depth : Nat) (read : Entries Json) :
    List (List Char × JsonText) → Option (Entries Json)
  | [] => some read
  | (name, value) :: rest => do
    let name ← textOf? name
    let value ← value.toJson? depth
    membersToJson? depth (Entries.insert read name value) rest

end

end JsonText

namespace Json

/-- How deeply arrays and objects may be nested. -/
def depthLimit : Nat := 127

/-- Reads a document. -/
def ofText? (text : String) : Option Json :=
  (JsonText.ofText? text).bind fun read => read.toJson? depthLimit

end Json

end BuildConfig
