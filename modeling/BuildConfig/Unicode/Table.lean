import BuildConfig.Text.Digits
import BuildConfig.Unicode.CodeSet

namespace BuildConfig.Unicode

/-- The words of a text, between blanks and line ends. -/
def words (text : String) : List (List Char) :=
  let add (c : Char) (parts : List (List Char)) : List (List Char) :=
    if c = ' ' || c = '\n' then [] :: parts
    else match parts with
      | part :: rest => (c :: part) :: rest
      | [] => [[c]]
  (text.toList.foldr add []).filter fun word => !word.isEmpty

/-- The parts of a word before and after the first separator. -/
def cut (separator : Char) (word : List Char) : List Char × List Char :=
  (word.takeWhile (· != separator), (word.dropWhile (· != separator)).drop 1)

/-- A range that is written with the hexadecimal codes of its ends, or of its only member. -/
def CodeRange.ofWord (word : List Char) : CodeRange :=
  match cut '-' word with
  | (code, []) => single (Text.digitsValue 16 code)
  | (first, last) => ⟨Text.digitsValue 16 first, Text.digitsValue 16 last⟩

/-- The set of the ranges in a text. -/
def CodeSet.ofText (text : String) : CodeSet :=
  ofRanges ((words text).map CodeRange.ofWord)

/-- Code points in a row with the same value of a property. -/
structure Run where
  value : String
  range : CodeRange

/-- Runs from a code point on, each given by its value and its length. -/
def runsFrom (start : Nat) : List (List Char) → List Run
  | value :: length :: rest =>
    let after := start + Text.digitsValue 10 length
    ⟨String.ofList value, ⟨start, after - 1⟩⟩ :: runsFrom after rest
  | _ => []

/-- The runs of all code points. -/
def runs (text : String) : List Run :=
  runsFrom 0 (words text)

/-- The code points that have one of some values. -/
def withValue (runs : List Run) (values : List String) : CodeSet :=
  .ofRanges ((runs.filter fun run => values.contains run.value).map Run.range)

/-- The first item of a list under one of whose names something is known. -/
def named? {α : Type} (entries : List (List String × α)) (name : String) : Option α :=
  (entries.find? fun entry => entry.1.contains name).map Prod.snd

end BuildConfig.Unicode
