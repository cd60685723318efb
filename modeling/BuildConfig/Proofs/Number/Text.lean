import BuildConfig.Json.Grammar
import BuildConfig.Proofs.Number.Shortest

namespace BuildConfig

/-- A text ends, or goes on with a character outside a class. -/
def StopsAt (among : Char → Bool) (rest : List Char) : Prop :=
  ∀ c ∈ rest.head?, among c = false

section Stops

variable {among : Char → Bool} {first second rest more : List Char}

theorem stopsAt_nil : StopsAt among [] := by
  nofun

theorem stopsAt_cons {c : Char} (outside : among c = false) : StopsAt among (c :: rest) := by
  intro next head
  cases head
  exact outside

theorem span_append (all : ∀ c ∈ first, among c = true) (stops : StopsAt among rest) :
    (first ++ rest).span among = (first, rest) := by
  have stop : rest.takeWhile among = [] ∧ rest.dropWhile among = rest := by
    cases rest with
    | nil => exact ⟨rfl, rfl⟩
    | cons c rest =>
      have outside := stops c rfl
      simp [outside]
  rw [List.span_eq_takeWhile_dropWhile, List.takeWhile_append_of_pos all, List.dropWhile_append_of_pos all, stop.1,
    stop.2, List.append_nil]

/-- Where a text of a class ends is seen from what follows. -/
theorem eq_of_append_eq (all : ∀ c ∈ first, among c = true) (others : ∀ c ∈ second, among c = true)
    (stops : StopsAt among rest) (otherStops : StopsAt among more) (same : first ++ rest = second ++ more) :
    first = second ∧ rest = more := by
  have span := span_append all stops
  rw [same, span_append others otherStops] at span
  cases span
  exact ⟨rfl, rfl⟩

end Stops

section Digits

variable {digits rest : List Char} {n : Nat} {c : Char}

theorem isDigit_toDigits (digit : c ∈ Nat.toDigits 10 n) : c.isDigit = true :=
  Nat.isDigit_of_mem_toDigits (by decide) (by decide) digit

theorem digitsValue_eq (all : ∀ c ∈ digits, c.isDigit = true) :
    Text.digitsValue 10 digits = Nat.ofDigitChars 10 digits 0 := by
  rw [Text.digitsValue, Nat.ofDigitChars_eq_foldl]
  -- the readers agree digit by digit; on letters they would not
  refine List.foldl_ext _ _ _ fun value c digit => ?_
  rw [Text.digitValue, if_pos (all c digit)]

theorem digitsValue_toDigits (n : Nat) : Text.digitsValue 10 (Nat.toDigits 10 n) = n := by
  rw [digitsValue_eq fun c digit => isDigit_toDigits digit, Nat.ofDigitChars_ten_toDigits]

/-- No number but zero is written with a leading zero. -/
theorem head_toDigits_ne (positive : 0 < n) (written : Nat.toDigits 10 n = c :: rest) : c ≠ '0' := by
  induction n using Nat.base_induction 10 (by decide) generalizing c rest with
  | single digit below =>
    rw [Nat.toDigits_of_lt_base below] at written
    cases written
    intro zero
    have code := congrArg Char.toNat zero
    rw [Nat.toNat_digitChar_of_lt_ten below] at code
    simp at code
    omega
  | digit more last below some ih =>
    rw [← Nat.toDigits_append_toDigits (by decide) some below] at written
    cases early : Nat.toDigits 10 more with
    | nil => exact absurd early Nat.toDigits_ne_nil
    | cons first later =>
      rw [early] at written
      cases written
      exact ih some early

end Digits

namespace Numeral

variable {n : Numeral}

/-- The power of ten of the last digit. -/
def exponent (n : Numeral) : Int :=
  n.power.getD 0 - n.fraction.length

def signChars (n : Numeral) : List Char :=
  if n.negative then ['-'] else []

def fractionChars (n : Numeral) : List Char :=
  if n.fraction.isEmpty then [] else '.' :: n.fraction

def powerChars (n : Numeral) : List Char :=
  match n.power with
  | none => []
  | some power => 'e' :: (if power < 0 then '-' else '+') :: Nat.toDigits 10 power.natAbs

def unsignedChars (n : Numeral) : List Char :=
  n.whole ++ (n.fractionChars ++ n.powerChars)

def chars (n : Numeral) : List Char :=
  n.signChars ++ n.unsignedChars

/-- Only a single zero comes first. -/
structure Valid (n : Numeral) : Prop where
  digits : ∀ c ∈ n.whole ++ n.fraction, c.isDigit = true
  leading : n.whole = ['0'] ∨ ∃ first rest, n.whole = first :: rest ∧ first ≠ '0'

theorem readWhole_append (valid : n.Valid) {rest : List Char} (next : StopsAt Char.isDigit rest) :
    JsonText.readWhole (n.whole ++ rest) = some (n.whole, rest) := by
  have digits : ∀ c ∈ n.whole, c.isDigit = true := fun c digit => valid.digits c (List.mem_append_left _ digit)
  rcases valid.leading with zero | ⟨first, later, whole, nonzero⟩
  · rw [zero]
    rfl
  · have span := span_append digits next
    rw [whole] at span ⊢
    unfold JsonText.readWhole
    split
    · rename_i zero
      cases zero
      exact absurd rfl nonzero
    · rw [span]

theorem readExponent_powerChars (n : Numeral) :
    JsonText.readExponent n.powerChars = some (n.power, []) := by
  unfold powerChars
  cases n.power with
  | none => rfl
  | some power =>
    have span : (Nat.toDigits 10 power.natAbs ++ []).span Char.isDigit = (Nat.toDigits 10 power.natAbs, []) :=
      span_append (fun _ digit => isDigit_toDigits digit) stopsAt_nil
    have value := digitsValue_toDigits power.natAbs
    rw [List.append_nil] at span
    cases written : Nat.toDigits 10 power.natAbs with
    | nil => exact absurd written Nat.toDigits_ne_nil
    | cons first later =>
      rw [written] at span value
      by_cases below : power < 0
      · simp only [below, if_true, written, JsonText.readExponent, span, value, Option.some.injEq, Prod.mk.injEq,
          and_true]
        omega
      · simp only [below, if_false, written, JsonText.readExponent, span, value, Option.some.injEq, Prod.mk.injEq,
          and_true, Bool.false_eq_true]
        omega

theorem stopsAt_powerChars (n : Numeral) : StopsAt Char.isDigit n.powerChars := by
  unfold powerChars
  split
  · exact stopsAt_nil
  · exact stopsAt_cons rfl

theorem readFraction_append (valid : n.Valid) :
    JsonText.readFraction (n.fractionChars ++ n.powerChars) = some (n.fraction, n.powerChars) := by
  have digits : ∀ c ∈ n.fraction, c.isDigit = true :=
    fun c digit => valid.digits c (List.mem_append_right _ digit)
  have span := span_append digits n.stopsAt_powerChars
  unfold fractionChars
  cases written : n.fraction with
  | nil =>
    unfold powerChars
    cases n.power <;> rfl
  | cons first later =>
    rw [written] at span
    show JsonText.readFraction ('.' :: (first :: later ++ n.powerChars)) = _
    rw [JsonText.readFraction, span]

theorem stopsAt_after_whole (n : Numeral) :
    StopsAt Char.isDigit (n.fractionChars ++ n.powerChars) := by
  unfold fractionChars
  split
  · exact n.stopsAt_powerChars
  · exact stopsAt_cons rfl

theorem Valid.exists_whole (valid : n.Valid) :
    ∃ first rest, n.whole = first :: rest ∧ first.isDigit = true := by
  have digits : ∀ c ∈ n.whole, c.isDigit = true := fun c digit => valid.digits c (List.mem_append_left _ digit)
  rcases valid.leading with zero | ⟨first, rest, whole, _⟩
  · exact ⟨'0', [], zero, rfl⟩
  · exact ⟨first, rest, whole, digits first (whole ▸ List.mem_cons_self)⟩

/-- The parts are found again in the text. -/
theorem readNumeral_chars (valid : n.Valid) : JsonText.readNumeral n.chars = some (n, []) := by
  have whole := readWhole_append valid n.stopsAt_after_whole
  have fraction := readFraction_append valid
  have exponent := n.readExponent_powerChars
  unfold JsonText.readNumeral chars signChars unsignedChars
  cases sign : n.negative with
  | true =>
    have same : Numeral.mk true n.whole n.fraction n.power = n := by rw [← sign]
    simp [whole, fraction, exponent, same]
  | false =>
    obtain ⟨first, rest, starts, digit⟩ := valid.exists_whole
    have unsigned : first ≠ '-' := fun minus => by
      rw [minus] at digit
      cases digit
    -- a digit comes first, so that no sign is taken off
    rw [starts] at whole
    simp only [Bool.false_eq_true, if_false, List.nil_append, starts, List.cons_append] at whole ⊢
    split
    · rename_i minus
      cases minus
      exact absurd rfl unsigned
    · have same : Numeral.mk false (first :: rest) n.fraction n.power = n := by rw [← sign, ← starts]
      simp [whole, fraction, exponent, same]

/-- The characters of a numeral. -/
def isCharacter (c : Char) : Bool :=
  c.isDigit || ['-', '+', '.', 'e'].contains c

theorem isCharacter_of_isDigit {c : Char} (digit : c.isDigit = true) : isCharacter c = true := by
  rw [isCharacter, digit, Bool.true_or]

theorem isCharacter_of_mem (valid : n.Valid) {c : Char} (mem : c ∈ n.chars) : isCharacter c = true := by
  simp only [chars, unsignedChars, List.mem_append] at mem
  rcases mem with sign | whole | fraction | power
  · unfold signChars at sign
    split at sign
    · rw [List.mem_singleton.mp sign]
      rfl
    · cases sign
  · exact isCharacter_of_isDigit (valid.digits c (List.mem_append_left _ whole))
  · unfold fractionChars at fraction
    split at fraction
    · cases fraction
    · rcases List.mem_cons.mp fraction with point | digit
      · rw [point]
        rfl
      · exact isCharacter_of_isDigit (valid.digits c (List.mem_append_right _ digit))
  · unfold powerChars at power
    split at power
    · cases power
    · rcases List.mem_cons.mp power with letter | later
      · rw [letter]
        rfl
      · rcases List.mem_cons.mp later with sign | digit
        · rw [sign]
          split <;> rfl
        · exact isCharacter_of_isDigit (isDigit_toDigits digit)

theorem exists_chars (valid : n.Valid) :
    ∃ first rest, n.chars = first :: rest ∧ (first = '-' ∨ first.isDigit = true) := by
  obtain ⟨first, rest, whole, digit⟩ := valid.exists_whole
  unfold chars signChars
  split
  · exact ⟨'-', _, rfl, Or.inl rfl⟩
  · rw [unsignedChars, whole]
    exact ⟨first, _, rfl, Or.inr digit⟩

end Numeral

/-- What a numeral stands for, but for its sign. -/
def Numeral.magnitude (n : Numeral) : ℚ :=
  Decimal.value ⟨n.coefficient, n.exponent⟩

/-- An integer is written as it is, and a double with a point or an exponent, as a decimal that rounds to it. -/
def Numeral.Denotes (n : Numeral) : Number → Prop
  | .int value => n.integral = true ∧ value = if n.negative then -(n.coefficient : Int) else n.coefficient
  | .float x => n.integral = false ∧ n.negative = x.negative ∧
      if x.significand = 0 then n.magnitude = 0 else x.Covers n.magnitude

/-- A numeral denotes one number at most. -/
theorem Numeral.Denotes.eq {n : Numeral} {a b : Number} (denotes : n.Denotes a) (other : n.Denotes b) : a = b := by
  cases a with
  | int first =>
    cases b with
    | int second => rw [denotes.2, other.2]
    | float y => cases denotes.1.symm.trans other.1
  | float x =>
    cases b with
    | int second => cases denotes.1.symm.trans other.1
    | float y =>
      obtain ⟨_, sign, covers⟩ := denotes
      obtain ⟨_, otherSign, otherCovers⟩ := other
      have signs : x.negative = y.negative := sign.symm.trans otherSign
      congr 1
      split at covers <;> split at otherCovers
      · rename_i zero otherZero
        exact Binary64.eq_of_zero signs zero otherZero
      · rename_i otherPositive
        exact absurd covers (otherCovers.pos (Nat.pos_of_ne_zero otherPositive)).ne'
      · rename_i positive _
        exact absurd otherCovers (covers.pos (Nat.pos_of_ne_zero positive)).ne'
      · exact Binary64.eq_of_covers signs covers otherCovers

section Written

variable {numeral : Numeral} {d : Decimal} {before after : Nat}

theorem isDigit_padded {n : Nat} {c : Char}
    (mem : c ∈ List.replicate before '0' ++ (Nat.toDigits 10 n ++ List.replicate after '0')) : c.isDigit = true := by
  rcases List.mem_append.mp mem with zero | later
  · rw [List.eq_of_mem_replicate zero]
    rfl
  · rcases List.mem_append.mp later with digit | zero
    · exact isDigit_toDigits digit
    · rw [List.eq_of_mem_replicate zero]
      rfl

theorem digitsValue_padded (before n after : Nat) :
    Text.digitsValue 10 (List.replicate before '0' ++ (Nat.toDigits 10 n ++ List.replicate after '0')) =
      10 ^ after * n := by
  rw [digitsValue_eq fun _ => isDigit_padded, Nat.ofDigitChars_append, Nat.ofDigitChars_append,
    Nat.ofDigitChars_replicate_zero, Nat.ofDigitChars_replicate_zero, Nat.mul_zero, Nat.ofDigitChars_ten_toDigits]

/-- A numeral that writes a decimal with a point or an exponent. -/
structure Numeral.Writes (numeral : Numeral) (d : Decimal) : Prop where
  valid : numeral.Valid
  integral : numeral.integral = false
  magnitude : numeral.magnitude = d.value

/-- The digits may have zeros around them, as many as the point is moved by. -/
theorem writes_of_padded (before after : Nat)
    (digits : numeral.whole ++ numeral.fraction =
      List.replicate before '0' ++ (Nat.toDigits 10 d.coefficient ++ List.replicate after '0'))
    (leading : numeral.whole = ['0'] ∨ ∃ first rest, numeral.whole = first :: rest ∧ first ≠ '0')
    (exponent : numeral.exponent + after = d.exponent) (integral : numeral.integral = false) :
    numeral.Writes d where
  valid := ⟨fun _ mem => isDigit_padded (digits ▸ mem), leading⟩
  integral := integral
  magnitude := by
    have coefficient : numeral.coefficient = 10 ^ after * d.coefficient := by
      rw [← digitsValue_padded before d.coefficient after, ← digits]
      rfl
    rw [Numeral.magnitude, Decimal.value, Decimal.value, coefficient, ← exponent, zpow_add₀ (by norm_num), zpow_natCast]
    push_cast
    ring

theorem toList_toString (n : Nat) : (toString n).toList = Nat.toDigits 10 n :=
  Nat.toList_repr

theorem toList_power (power : Int) : ((if power < 0 then "e-" else "e+") ++ toString power.natAbs).toList =
    'e' :: (if power < 0 then '-' else '+') :: Nat.toDigits 10 power.natAbs := by
  split <;> simp

theorem exists_head_toDigits {n : Nat} (positive : 0 < n) :
    ∃ first rest, Nat.toDigits 10 n = first :: rest ∧ first ≠ '0' := by
  cases written : Nat.toDigits 10 n with
  | nil => exact absurd written Nat.toDigits_ne_nil
  | cons first rest => exact ⟨first, rest, rfl, head_toDigits_ne positive written⟩

section Layouts

variable {place : Int} (negative : Bool) (placed : (Nat.toDigits 10 d.coefficient).length + d.exponent = place)
include placed

/-- A point before all digits has a zero before it and more zeros behind. -/
theorem writes_before (low : place ≤ 0) : Numeral.Writes
    ⟨negative, ['0'], List.replicate (-place).toNat '0' ++ Nat.toDigits 10 d.coefficient, none⟩ d := by
  refine writes_of_padded ((-place).toNat + 1) 0 ?_ (Or.inl rfl) ?_ ?_
  · simp [List.replicate_succ]
  · simp only [Numeral.exponent, Option.getD_none, List.length_append, List.length_replicate]
    omega
  · simp [Numeral.integral, Nat.toDigits_ne_nil]

theorem writes_among (positive : 0 < d.coefficient) (low : 0 < place)
    (inside : place.toNat < (Nat.toDigits 10 d.coefficient).length) : Numeral.Writes
    ⟨negative, (Nat.toDigits 10 d.coefficient).take place.toNat, (Nat.toDigits 10 d.coefficient).drop place.toNat,
      none⟩ d := by
  refine writes_of_padded 0 0 (by simp) (Or.inr ?_) ?_ ?_
  · obtain ⟨first, later, written, nonzero⟩ := exists_head_toDigits positive
    rw [written, List.take_cons (by omega)]
    exact ⟨first, _, rfl, nonzero⟩
  · simp only [Numeral.exponent, Option.getD_none, List.length_drop]
    omega
  · simp [Numeral.integral, inside]

/-- A point after all digits has zeros up to it and a single one behind. -/
theorem writes_after (positive : 0 < d.coefficient) (wide : (Nat.toDigits 10 d.coefficient).length ≤ place) :
    Numeral.Writes ⟨negative, Nat.toDigits 10 d.coefficient ++
      List.replicate (place.toNat - (Nat.toDigits 10 d.coefficient).length) '0', ['0'], none⟩ d := by
  refine writes_of_padded 0 (place.toNat - (Nat.toDigits 10 d.coefficient).length + 1) ?_ (Or.inr ?_) ?_ rfl
  · simp [List.replicate_succ']
  · obtain ⟨first, later, written, nonzero⟩ := exists_head_toDigits positive
    rw [written]
    exact ⟨first, _, rfl, nonzero⟩
  · simp only [Numeral.exponent, Option.getD_none, List.length_singleton]
    omega

/-- A point after the first digit leaves the rest to the power. -/
theorem writes_scientific {first : Char} {later : List Char} (written : Nat.toDigits 10 d.coefficient = first :: later)
    (nonzero : first ≠ '0') : Numeral.Writes ⟨negative, [first], later, some (place - 1)⟩ d := by
  refine writes_of_padded 0 0 ?_ (Or.inr ⟨first, [], rfl, nonzero⟩) ?_ ?_
  · simp [written]
  · rw [written, List.length_cons] at placed
    simp only [Numeral.exponent, Option.getD_some]
    omega
  · simp [Numeral.integral]

/-- Positional notation keeps the digits and puts the point in its place, with zeros where digits are missing. -/
theorem exists_positional (positive : 0 < d.coefficient) :
    ∃ numeral : Numeral, numeral.Writes d ∧ numeral.negative = negative ∧
      numeral.unsignedChars = (Number.positional (toString d.coefficient) place).toList := by
  unfold Number.positional
  dsimp only
  rw [toList_toString]
  split
  · rename_i low
    refine ⟨_, writes_before negative placed low, rfl, ?_⟩
    simp [Numeral.unsignedChars, Numeral.fractionChars, Numeral.powerChars, Nat.toDigits_ne_nil]
  · rename_i low
    split
    · rename_i inside
      refine ⟨_, writes_among negative placed positive (by omega) inside, rfl, ?_⟩
      have some : (Nat.toDigits 10 d.coefficient).drop place.toNat ≠ [] := by
        simp [inside]
      simp [Numeral.unsignedChars, Numeral.fractionChars, Numeral.powerChars, some]
    · rename_i wide
      refine ⟨_, writes_after negative placed positive (by omega), rfl, ?_⟩
      simp [Numeral.unsignedChars, Numeral.fractionChars, Numeral.powerChars]

theorem exists_scientific (positive : 0 < d.coefficient) :
    ∃ numeral : Numeral, numeral.Writes d ∧ numeral.negative = negative ∧
      numeral.unsignedChars = (Number.scientific (toString d.coefficient) (place - 1)).toList := by
  obtain ⟨first, later, written, nonzero⟩ := exists_head_toDigits positive
  refine ⟨_, writes_scientific negative placed written nonzero, rfl, ?_⟩
  unfold Number.scientific
  dsimp only
  rw [toList_toString, written, String.append_assoc, String.toList_append, toList_power]
  cases later <;> simp [Numeral.unsignedChars, Numeral.fractionChars, Numeral.powerChars]

end Layouts

end Written

namespace Number

theorem toList_int (value : Int) :
    (toString value).toList = (if value < 0 then ['-'] else []) ++ Nat.toDigits 10 value.natAbs := by
  rw [Int.toString_eq_repr, Int.repr_eq_if]
  rcases lt_or_ge value 0 with below | above
  · rw [if_neg (not_le.mpr below), if_pos below, String.toList_append, Nat.toList_repr]
    congr 2
    omega
  · rw [if_pos above, if_neg (not_lt.mpr above), Nat.toList_repr, List.nil_append]
    congr 1
    omega

theorem exists_numeral_int (value : Int) :
    ∃ numeral : Numeral, numeral.Valid ∧ numeral.chars = (int value).text.toList ∧ numeral.Denotes (int value) ∧
      numeral.negative = decide (value < 0) := by
  refine ⟨⟨decide (value < 0), Nat.toDigits 10 value.natAbs, [], none⟩, ⟨?_, ?_⟩, ?_, ⟨rfl, ?_⟩, rfl⟩
  · rw [List.append_nil]
    exact fun _ digit => isDigit_toDigits digit
  · rcases Nat.eq_zero_or_pos value.natAbs with zero | positive
    · rw [zero]
      exact Or.inl rfl
    · exact Or.inr (exists_head_toDigits positive)
  · rw [text, toList_int]
    simp [Numeral.chars, Numeral.signChars, Numeral.unsignedChars, Numeral.fractionChars,
      Numeral.powerChars]
  · simp only [Numeral.coefficient, List.append_nil, digitsValue_toDigits, decide_eq_true_eq]
    omega

/-- The sign comes before the parts without it. -/
theorem chars_signed {numeral : Numeral} {negative : Bool} {rest : String} (sign : numeral.negative = negative)
    (chars : numeral.unsignedChars = rest.toList) :
    numeral.chars = ((if negative then "-" else "") ++ rest).toList := by
  rw [Numeral.chars, Numeral.signChars, sign, chars, String.toList_append]
  cases negative <;> rfl

theorem exists_unsigned (negative : Bool) {d : Decimal} (positive : 0 < d.coefficient) {place : Int}
    (placed : (Nat.toDigits 10 d.coefficient).length + d.exponent = place) :
    ∃ numeral : Numeral, numeral.Writes d ∧ numeral.negative = negative ∧
      numeral.unsignedChars = (if -5 < place ∧ place ≤ 16 then positional (toString d.coefficient) place
        else scientific (toString d.coefficient) (place - 1)).toList := by
  split
  · exact exists_positional negative placed positive
  · exact exists_scientific negative placed positive

/-- The decimal that is written for a double: the shortest one, or zero. -/
theorem exists_writes_float (x : Binary64) : ∃ (numeral : Numeral) (d : Decimal), numeral.Writes d ∧
    numeral.negative = x.negative ∧ numeral.chars = (floatText x).toList ∧
    if x.significand = 0 then d.value = 0 else x.Covers d.value := by
  unfold floatText
  by_cases zero : x.significand = 0
  · refine ⟨⟨x.negative, ['0'], ['0'], none⟩, ⟨0, 0⟩, writes_of_padded 0 1 rfl (Or.inl rfl) rfl rfl, rfl, ?_, ?_⟩
    · rw [Binary64.isZero, zero]
      exact chars_signed rfl rfl
    · rw [if_pos zero, Decimal.value, Nat.cast_zero, zero_mul]
  · have covers := Binary64.covers_shortest (Nat.pos_of_ne_zero zero)
    have positive : 0 < x.shortest.coefficient := by
      have value := covers.pos (Nat.pos_of_ne_zero zero)
      refine Nat.pos_of_ne_zero fun none => ?_
      rw [Decimal.value, none, Nat.cast_zero, zero_mul] at value
      exact lt_irrefl _ value
    have placed : (Nat.toDigits 10 x.shortest.coefficient).length + x.shortest.exponent =
        (toString x.shortest.coefficient).length + x.shortest.exponent := by
      rw [← toList_toString, String.length_toList]
    obtain ⟨numeral, writes, sign, chars⟩ := exists_unsigned x.negative positive placed
    refine ⟨numeral, x.shortest, writes, sign, ?_, ?_⟩
    · rw [Binary64.isZero, if_neg (by simpa using zero)]
      exact chars_signed sign chars
    · rwa [if_neg zero]

/-- The text of a number is a numeral that denotes it. -/
theorem exists_numeral (number : Number) :
    ∃ numeral : Numeral, numeral.Valid ∧ numeral.chars = number.text.toList ∧ numeral.Denotes number := by
  cases number with
  | int value =>
    obtain ⟨numeral, valid, chars, denotes, _⟩ := exists_numeral_int value
    exact ⟨numeral, valid, chars, denotes⟩
  | float x =>
    obtain ⟨numeral, d, writes, sign, chars, covers⟩ := exists_writes_float x
    refine ⟨numeral, writes.valid, chars, writes.integral, sign, ?_⟩
    rw [writes.magnitude]
    exact covers

/-- The text of a number is read as a numeral, and the numeral denotes the number. -/
theorem readNumeral_text (number : Number) :
    ∃ numeral, JsonText.readNumeral number.text.toList = some (numeral, []) ∧ numeral.Denotes number := by
  obtain ⟨numeral, valid, chars, denotes⟩ := exists_numeral number
  rw [← chars]
  exact ⟨numeral, Numeral.readNumeral_chars valid, denotes⟩

theorem text_injective {a b : Number} (same : a.text = b.text) : a = b := by
  obtain ⟨numeral, read, denotes⟩ := readNumeral_text a
  obtain ⟨other, otherRead, otherDenotes⟩ := readNumeral_text b
  rw [same, otherRead, Option.some.injEq, Prod.mk.injEq] at read
  rw [← read.1] at denotes
  exact denotes.eq otherDenotes

theorem isCharacter_of_mem_text {number : Number} {c : Char} (mem : c ∈ number.text.toList) :
    Numeral.isCharacter c = true := by
  obtain ⟨numeral, valid, chars, _⟩ := exists_numeral number
  rw [← chars] at mem
  exact Numeral.isCharacter_of_mem valid mem

theorem exists_toList_text (number : Number) :
    ∃ first rest, number.text.toList = first :: rest ∧ (first = '-' ∨ first.isDigit = true) := by
  obtain ⟨numeral, valid, chars, _⟩ := exists_numeral number
  rw [← chars]
  exact Numeral.exists_chars valid

end Number

end BuildConfig
