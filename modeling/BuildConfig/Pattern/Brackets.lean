import BuildConfig.Pattern.Escape

namespace BuildConfig.Pattern

/-- An item of a set with the depth to which sets are nested in it. -/
structure Nested (α : Type) where
  value : α
  depth : Nat

/-- What an escape stands for inside brackets; conditions on places have no meaning there, and other
characters than ASCII ones none where patterns are of bytes. -/
def Escaped.asItem? (flags : Flags) : Escaped → Option ClassItem
  | .literal code _ => if flags.unicode || code < 128 then some (.range code code) else none
  | .letter kind negated => some (.letter kind negated)
  | .property members negated => some (.property members negated)
  | .look _ => none

/-- An end of a range: a single character. -/
def ClassItem.single? : ClassItem → Option Nat
  | .range first last => if first = last then some first else none
  | _ => none

/-- One character or escape inside brackets. -/
def setAtom? (flags : Flags) : List Char → Option (ClassItem × List Char)
  | '\\' :: rest => do
    let (escaped, rest) ← escape? flags rest
    let item ← escaped.asItem? flags
    some (item, rest)
  | c :: rest => do
    let item ← (Escaped.literal c.toNat false).asItem? flags
    some (item, rest)
  | [] => none

/-- The character that a hyphen looks ahead to. In verbose patterns blanks do not count, and of a
comment only its sign does not: what the comment says is looked at. -/
def lookAhead? (flags : Flags) (cs : List Char) : Option Char :=
  if flags.verbose then
    let seen := match cs.dropWhile Text.isBlank with
      | '#' :: comment => comment.dropWhile Text.isBlank
      | other => other
    seen.head?.or cs.head?
  else cs.head?

/-- An atom, or a range of two single characters in order. A hyphen that looks ahead to a bracket or
another hyphen makes no range. -/
def setRange? (flags : Flags) (cs : List Char) : Option (ClassItem × List Char) := do
  let (first, rest) ← setAtom? flags cs
  match skip flags rest with
  | [] => none
  | '-' :: afterHyphen =>
    match lookAhead? flags afterHyphen with
    | some ']' => some (first, '-' :: afterHyphen)
    | some '-' => some (first, '-' :: afterHyphen)
    | _ => do
      let (last, rest) ← setAtom? flags (skip flags afterHyphen)
      let low ← first.single?
      let high ← last.single?
      if low ≤ high then some (.range low high, rest) else none
  | rest => some (first, rest)

/-- A class with a name, after its `[:`. Anything that is no such class is left to be a set. -/
def namedClass? (cs : List Char) : Option (ClassItem × List Char) :=
  let (negated, name) := match cs with
    | '^' :: rest => (true, rest)
    | rest => (false, rest)
  match name.span (· != ':') with
  | (name, ':' :: ']' :: rest) =>
    (NamedClass.ofName? (String.ofList name)).map fun kind => (.named kind negated, rest)
  | _ => none

/-- Closes a union: one item stands for itself. -/
def closeUnion (items : List (Nested ClassItem)) : Nested ClassSet :=
  let deepest := items.foldl (fun depth item => max depth item.depth) 0
  ⟨.union (items.reverse.map Nested.value), if 2 ≤ items.length then deepest + 1 else deepest⟩

/-- Applies the operator that is waiting for its right side. -/
def closeOperator (pending : Option (SetOperator × Nested ClassSet)) (right : Nested ClassSet) :
    Nested ClassSet :=
  match pending with
  | some (operator, left) =>
    ⟨.combine operator left.value right.value, max left.depth right.depth + 1⟩
  | none => right

/-- The start of a set, after its bracket: negation, then hyphens or one closing bracket that stand
for themselves. -/
def setStart (flags : Flags) (cs : List Char) :
    Bool × List (Nested ClassItem) × List Char :=
  let (negated, cs) := match cs with
    | '^' :: rest => (true, skip flags rest)
    | rest => (false, rest)
  let (hyphens, cs) := run flags (· == '-') cs
  let literals : List (Nested ClassItem) := hyphens.map fun _ => ⟨.range 0x2d 0x2d, 0⟩
  match literals, cs with
  | [], ']' :: rest => (negated, [⟨.range 0x5d 0x5d, 0⟩], skip flags rest)
  | _, _ => (negated, literals, cs)

/-- Reads a set up to its closing bracket: items so far, latest first, and the operator that waits.
Each step takes a character, so the length of the text bounds them. -/
def setBody? (flags : Flags) : Nat → Bool → List (Nested ClassItem) →
    Option (SetOperator × Nested ClassSet) → List Char → Option (Nested ClassItem × List Char)
  | 0, _, _, _, _ => none
  | fuel + 1, negated, items, pending, cs =>
    let operator (operator : SetOperator) (rest : List Char) :=
      setBody? flags fuel negated [] (some (operator, closeOperator pending (closeUnion items)))
        rest
    match skip flags cs with
    | [] => none
    | ']' :: rest =>
      let set := closeOperator pending (closeUnion items)
      some (⟨.bracketed negated set.value, set.depth + 1⟩, rest)
    | '&' :: '&' :: rest => operator .intersection rest
    | '-' :: '-' :: rest => operator .difference rest
    | '~' :: '~' :: rest => operator .symmetricDifference rest
    | '[' :: rest =>
      let named := match rest with
        | ':' :: rest => namedClass? rest
        | _ => none
      match named with
      | some (item, rest) => setBody? flags fuel negated (⟨item, 0⟩ :: items) pending rest
      | none =>
        let (innerNegated, literals, rest) := setStart flags (skip flags rest)
        (setBody? flags fuel innerNegated literals none rest).bind fun (inner, rest) =>
          setBody? flags fuel negated (inner :: items) pending rest
    | more =>
      (setRange? flags more).bind fun (item, rest) =>
        setBody? flags fuel negated (⟨item, 0⟩ :: items) pending rest

/-- Reads a set in brackets, after the opening one. -/
def brackets? (flags : Flags) (cs : List Char) : Option (Nested ClassItem × List Char) :=
  let (negated, literals, rest) := setStart flags (skip flags cs)
  setBody? flags (cs.length + 1) negated literals none rest

end BuildConfig.Pattern
