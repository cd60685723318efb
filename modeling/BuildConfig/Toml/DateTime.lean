import BuildConfig.Text.Digits

namespace BuildConfig.Toml

structure Date where
  year : Nat
  month : Nat
  day : Nat

/-- A time of day with its fraction in nanoseconds. A sixtieth second is a leap second. -/
structure Time where
  hour : Nat
  minute : Nat
  second : Nat
  nanosecond : Nat

/-- The distance of a local time from universal time. -/
inductive Offset where
  | universal
  | east (minutes : Int)

/-- A date, a time or both; an offset needs both. -/
inductive DateTime where
  | dateOnly (date : Date)
  | timeOnly (time : Time)
  | both (date : Date) (time : Time) (offset : Option Offset)

def isLeapYear (year : Nat) : Bool :=
  year % 4 == 0 && (year % 100 != 0 || year % 400 == 0)

def daysIn (year month : Nat) : Nat :=
  if month = 2 then (if isLeapYear year then 29 else 28)
  else if [4, 6, 9, 11].contains month then 30
  else 31

/-- A number padded with zeros to a width. -/
def padded (width n : Nat) : String :=
  let digits := (toString n).toList
  String.ofList (List.replicate (width - digits.length) '0' ++ digits)

def Date.text (date : Date) : String :=
  padded 4 date.year ++ "-" ++ padded 2 date.month ++ "-" ++ padded 2 date.day

/-- Trailing zeros of the fraction are left out, and so is a fraction of nothing. -/
def Time.text (time : Time) : String :=
  let fraction := ((padded 9 time.nanosecond).toList.reverse.dropWhile (· == '0')).reverse
  padded 2 time.hour ++ ":" ++ padded 2 time.minute ++ ":" ++ padded 2 time.second
    ++ if fraction.isEmpty then "" else "." ++ String.ofList fraction

def Offset.text : Offset → String
  | .universal => "Z"
  | .east minutes =>
    (if minutes < 0 then "-" else "+") ++ padded 2 (minutes.natAbs / 60) ++ ":"
      ++ padded 2 (minutes.natAbs % 60)

def DateTime.text : DateTime → String
  | .dateOnly date => date.text
  | .timeOnly time => time.text
  | .both date time offset =>
    date.text ++ "T" ++ time.text ++ (offset.map Offset.text).getD ""

/-- A fixed number of decimal digits. -/
def readDigits (count : Nat) (cs : List Char) : Option (Nat × List Char) :=
  let digits := cs.take count
  if digits.length = count && digits.all Char.isDigit then
    some (Text.digitsValue 10 digits, cs.drop count)
  else none

/-- Two digits up to a greatest value. -/
def readPair (greatest : Nat) (cs : List Char) : Option (Nat × List Char) := do
  let (n, rest) ← readDigits 2 cs
  if n ≤ greatest then some (n, rest) else none

def readMark (mark : Char) : List Char → Option (List Char)
  | c :: rest => if c = mark then some rest else none
  | [] => none

/-- A date that is in the calendar. -/
def readDate (cs : List Char) : Option (Date × List Char) := do
  let (year, cs) ← readDigits 4 cs
  let cs ← readMark '-' cs
  let (month, cs) ← readPair 12 cs
  let cs ← readMark '-' cs
  let (day, cs) ← readPair 31 cs
  if 1 ≤ month ∧ 1 ≤ day ∧ day ≤ daysIn year month then some (⟨year, month, day⟩, cs) else none

/-- Nanoseconds; digits beyond the ninth are cut off. -/
def readNanoseconds (cs : List Char) : Nat × List Char :=
  match cs with
  | '.' :: rest =>
    match rest.span Char.isDigit with
    | ([], _) => (0, cs)
    | (digits, rest) =>
      let kept := digits.take 9
      (Text.digitsValue 10 kept * Nat.pow 10 (9 - kept.length), rest)
  | _ => (0, cs)

/-- A time of day up to a greatest hour. -/
def readTimeUpTo (greatestHour : Nat) (cs : List Char) : Option (Time × List Char) := do
  let (hour, cs) ← readPair greatestHour cs
  let cs ← readMark ':' cs
  let (minute, cs) ← readPair 59 cs
  let cs ← readMark ':' cs
  let (second, cs) ← readPair 60 cs
  let (nanosecond, cs) := readNanoseconds cs
  some (⟨hour, minute, second, nanosecond⟩, cs)

def readTime (cs : List Char) : Option (Time × List Char) :=
  readTimeUpTo 23 cs

/-- An offset whose hours and minutes are bounded apart and together. -/
def readOffsetUpTo (greatestHour greatestMinute greatest : Nat) (cs : List Char) :
    Option (Offset × List Char) :=
  let signed (sign : Int) (cs : List Char) : Option (Offset × List Char) := do
    let (hour, cs) ← readPair greatestHour cs
    let cs ← readMark ':' cs
    let (minute, cs) ← readPair greatestMinute cs
    let minutes := 60 * hour + minute
    if minutes ≤ greatest then some (.east (sign * minutes), cs) else none
  match cs with
  | 'Z' :: rest => some (.universal, rest)
  | 'z' :: rest => some (.universal, rest)
  | '+' :: rest => signed 1 rest
  | '-' :: rest => signed (-1) rest
  | _ => none

def readOffset (cs : List Char) : Option (Offset × List Char) :=
  readOffsetUpTo 23 59 (24 * 60) cs

/-- A date, with a time after a `T` or a blank if there is one, or a time alone. -/
def readDateTime (cs : List Char) : Option (DateTime × List Char) :=
  match readDate cs with
  | some (date, rest) =>
    let time := match rest with
      | mark :: rest => if ['T', 't', ' '].contains mark then readTime rest else none
      | [] => none
    match time with
    | none => some (.dateOnly date, rest)
    | some (time, rest) =>
      match readOffset rest with
      | some (offset, rest) => some (.both date time (some offset), rest)
      | none => some (.both date time none, rest)
  | none => (readTime cs).map fun (time, rest) => (.timeOnly time, rest)

/-- The date, the time or both that a text consists of. Here a day may have an hour 24, and an
offset is only bounded as a whole. -/
def DateTime.ofText? (text : String) : Option DateTime :=
  let cs := text.toList
  if cs[2]? = some ':' then
    match readTimeUpTo 24 cs with
    | some (time, []) => some (.timeOnly time)
    | _ => none
  else
    match readDate cs with
    | some (date, []) => some (.dateOnly date)
    | some (date, mark :: rest) =>
      match if ['T', 't', ' '].contains mark then readTimeUpTo 24 rest else none with
      | some (time, []) => some (.both date time none)
      | some (time, rest) =>
        match readOffsetUpTo 99 99 (24 * 60) rest with
        | some (offset, []) => some (.both date time (some offset))
        | _ => none
      | none => none
    | none => none

end BuildConfig.Toml
