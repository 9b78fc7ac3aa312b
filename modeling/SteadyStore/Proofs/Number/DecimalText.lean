import SteadyStore.Proofs.Number.Decimal
/-!
# Texts of decimals

A decimal is written as digits with or without a point, with an optional sign in front and an
optional exponent behind (`DecimalText`). Every such text is read, and read as the number nearest to
its value (`ofChars?_chars`), so a text with the value of a number is read as that number
(`ofChars?_of_value`). Every finite number has such a text (`value_exact`).
-/

namespace SteadyStore

/-! ## What a decimal looks like -/

/-- A text of decimal digits. It may be empty. -/
structure Digits where
  chars : List Char
  isDigit_of_mem : ∀ c ∈ chars, c.isDigit = true

/-- The digits of a count. -/
def Digits.ofCount (n : ℕ) : Digits where
  chars := Nat.toDigits 10 n
  isDigit_of_mem _ h := Nat.isDigit_of_mem_toDigits (by decide) (by decide) h

inductive Sign
  | absent
  | plus
  | minus

namespace Sign

def chars : Sign → List Char
  | absent => []
  | plus => ['+']
  | minus => ['-']

def isMinus : Sign → Bool
  | absent => false
  | plus => false
  | minus => true

/-- What the sign multiplies a value by. -/
def factor : Sign → ℤ
  | absent => 1
  | plus => 1
  | minus => -1

end Sign

/-- The exponent of a decimal. -/
structure ExponentText where
  mark : Char
  isMark : mark = 'e' ∨ mark = 'E'
  sign : Sign
  digits : Digits
  someDigit : digits.chars ≠ []

namespace ExponentText

def chars (text : ExponentText) : List Char := text.mark :: (text.sign.chars ++ text.digits.chars)

def value (text : ExponentText) : ℤ := text.sign.factor * digitsValue text.digits.chars

end ExponentText

/-- A decimal. There is a digit in front of the point or behind it. -/
structure DecimalText where
  sign : Sign
  whole : Digits
  /-- The digits behind the point, if there is a point. -/
  fraction? : Option Digits
  exponent? : Option ExponentText
  someDigit : whole.chars ≠ [] ∨ ∃ digits ∈ fraction?, digits.chars ≠ []

namespace DecimalText

def fraction (text : DecimalText) : List Char :=
  match text.fraction? with
  | none => []
  | some digits => digits.chars

/-- The point and the digits behind it. -/
def pointChars (text : DecimalText) : List Char :=
  match text.fraction? with
  | none => []
  | some digits => '.' :: digits.chars

def exponent (text : DecimalText) : ℤ :=
  match text.exponent? with
  | none => 0
  | some exponent => exponent.value

def exponentChars (text : DecimalText) : List Char :=
  match text.exponent? with
  | none => []
  | some exponent => exponent.chars

/-- The text behind the sign. -/
def unsigned (text : DecimalText) : List Char :=
  text.whole.chars ++ (text.pointChars ++ text.exponentChars)

def chars (text : DecimalText) : List Char := text.sign.chars ++ text.unsigned

/-- The count that the digits on both sides of the point write. -/
def coefficient (text : DecimalText) : ℕ := digitsValue (text.whole.chars ++ text.fraction)

/-- The power of ten that the coefficient counts. -/
def place (text : DecimalText) : ℤ := text.exponent - text.fraction.length

/-- The number that the text writes, exactly. -/
def value (text : DecimalText) : ℚ :=
  text.sign.factor *
    (digitsValue text.whole.chars + digitsValue text.fraction / 10 ^ text.fraction.length) *
    10 ^ text.exponent

end DecimalText

/-! ## Digits -/

theorem digitsValue_append (cs ds : List Char) :
    digitsValue (cs ++ ds) = digitsValue cs * tenPow ds.length + digitsValue ds := by
  induction ds using List.reverseRecOn with
  | nil => simp [tenPow, digitsValue]
  | append_singleton ds d ih =>
    rw [← List.append_assoc, digitsValue_append_digit, digitsValue_append_digit, ih,
      List.length_append, List.length_singleton, tenPow_add, show tenPow 1 = 10 from rfl]
    ring

theorem Digits.ofCount_ne_nil (n : ℕ) : (ofCount n).chars ≠ [] := Nat.toDigits_ne_nil

theorem digitsValue_ofCount (n : ℕ) : digitsValue (Digits.ofCount n).chars = n :=
  Nat.ofDigitChars_ten_toDigits

namespace Digits

variable (digits : Digits) {rest : List Char} (stops : ∀ c ∈ rest.head?, c.isDigit = false)
include stops

theorem takeWhile_append : (digits.chars ++ rest).takeWhile Char.isDigit = digits.chars := by
  have none : rest.takeWhile Char.isDigit = [] := by
    cases rest with
    | nil => rfl
    | cons c rest => simp [stops c rfl]
  rw [List.takeWhile_append_of_pos digits.isDigit_of_mem, none, List.append_nil]

theorem dropWhile_append : (digits.chars ++ rest).dropWhile Char.isDigit = rest := by
  rw [List.dropWhile_append_of_pos digits.isDigit_of_mem]
  cases rest with
  | nil => rfl
  | cons c rest => simp [stops c rfl]

end Digits

/-- A sign in front of a text that has none is split off. -/
theorem splitSign_append (sign : Sign) {rest : List Char}
    (bare : ∀ c ∈ rest.head?, c ≠ '-' ∧ c ≠ '+') :
    splitSign (sign.chars ++ rest) = (sign.isMinus, rest) := by
  cases sign with
  | absent =>
    cases rest with
    | nil => rfl
    | cons c rest =>
      obtain ⟨noMinus, noPlus⟩ := bare c rfl
      simp [Sign.chars, Sign.isMinus, splitSign, noMinus, noPlus]
  | plus => rfl
  | minus => rfl

namespace Sign

theorem factor_mul (sign : Sign) (amount : ℚ) :
    sign.factor * amount = if sign.isMinus then -amount else amount := by
  cases sign <;> simp [factor, isMinus]

/-- What is not zero has the sign and the amount of its value. -/
theorem isMinus_and_amount_eq {sign : Sign} {negative : Bool} {amount size : ℚ}
    (nonneg : 0 ≤ amount) (positive : 0 < size)
    (same : sign.factor * amount = if negative then -size else size) :
    sign.isMinus = negative ∧ amount = size := by
  rw [factor_mul] at same
  cases minus : sign.isMinus <;> cases negative <;>
    simp only [minus, if_true, if_false, Bool.false_eq_true] at same
  · exact ⟨rfl, same⟩
  · linarith
  · linarith
  · exact ⟨rfl, neg_inj.1 same⟩

end Sign

theorem toLower_of_isDigit {c : Char} (digit : c.isDigit = true) : c.toLower = c := by
  simp only [Char.isDigit, Bool.and_eq_true, decide_eq_true_eq] at digit
  unfold Char.toLower
  apply dif_neg
  rintro ⟨upper, -⟩
  exact absurd (UInt32.le_trans upper digit.2) (by decide)

/-- A digit is no letter and no sign. -/
theorem ne_of_isDigit {c mark : Char} (digit : c.isDigit = true) (other : mark.isDigit = false) :
    c ≠ mark := by
  rintro rfl
  exact Bool.false_ne_true (other.symm.trans digit)

/-! ## Reading -/

namespace DecimalText

variable (text : DecimalText)

theorem head_exponentChars : ∀ c ∈ text.exponentChars.head?, c = 'e' ∨ c = 'E' := by
  unfold exponentChars
  cases text.exponent? with
  | none => simp
  | some exponent =>
    rintro c ⟨⟩
    exact exponent.isMark

theorem readExponent?_exponentChars : readExponent? text.exponentChars = some text.exponent := by
  unfold exponentChars exponent
  cases text.exponent? with
  | none => rfl
  | some exponent =>
    have bare : ∀ c ∈ exponent.digits.chars.head?, c ≠ '-' ∧ c ≠ '+' := by
      intro c first
      have digit := exponent.digits.isDigit_of_mem c (List.mem_of_mem_head? first)
      exact ⟨ne_of_isDigit digit rfl, ne_of_isDigit digit rfl⟩
    have digits : exponent.digits.chars.all Char.isDigit = true :=
      List.all_eq_true.2 exponent.digits.isDigit_of_mem
    simp only [ExponentText.chars, readExponent?, splitSign_append _ bare]
    rw [if_pos ⟨exponent.isMark, exponent.someDigit, digits⟩]
    unfold ExponentText.value
    cases exponent.sign <;> simp [Sign.isMinus, Sign.factor]

theorem readDecimal?_unsigned :
    readDecimal? text.unsigned = some (text.coefficient, text.place) := by
  have noDigit : ∀ c ∈ text.exponentChars.head?, c.isDigit = false := by
    intro c first
    rcases text.head_exponentChars c first with rfl | rfl <;> rfl
  have read := text.readExponent?_exponentChars
  cases point : text.fraction? with
  | none =>
    have nonempty : text.whole.chars ≠ [] := by
      rcases text.someDigit with whole | ⟨digits, behind, -⟩
      · exact whole
      · rw [point] at behind
        cases behind
    have noPoint : ∀ rest, text.exponentChars ≠ '.' :: rest := by
      intro rest same
      have first := text.head_exponentChars '.' (by rw [same]; rfl)
      simp at first
    simp only [unsigned, pointChars, coefficient, place, fraction, point, List.nil_append, readDecimal?,
      text.whole.takeWhile_append noDigit, text.whole.dropWhile_append noDigit]
    simp [nonempty, read]
  | some digits =>
    have nonempty : ¬(text.whole.chars = [] ∧ digits.chars = []) := by
      rintro ⟨noWhole, noFraction⟩
      rcases text.someDigit with whole | ⟨others, behind, some⟩
      · exact whole noWhole
      · rw [point] at behind
        cases behind
        exact some noFraction
    have stops : ∀ c ∈ ('.' :: (digits.chars ++ text.exponentChars)).head?, c.isDigit = false := by
      rintro c ⟨⟩
      rfl
    simp only [unsigned, pointChars, coefficient, place, fraction, point, List.cons_append, readDecimal?,
      text.whole.takeWhile_append stops, text.whole.dropWhile_append stops,
      digits.takeWhile_append noDigit, digits.dropWhile_append noDigit]
    simp [nonempty, read]

/-- Behind the sign stands a digit or the point. -/
theorem exists_unsigned_eq_cons :
    ∃ c rest, text.unsigned = c :: rest ∧ (c.isDigit = true ∨ c = '.') := by
  unfold unsigned pointChars
  cases whole : text.whole.chars with
  | cons c rest =>
    exact ⟨c, _, rfl, .inl (text.whole.isDigit_of_mem c (by simp [whole]))⟩
  | nil =>
    rcases text.someDigit with some | ⟨digits, behind, -⟩
    · exact absurd whole some
    · rw [Option.mem_def.1 behind]
      exact ⟨'.', _, rfl, .inr rfl⟩

theorem ofChars?_chars :
    Binary64.ofChars? text.chars =
      some (.ofDecimal text.sign.isMinus text.coefficient text.place) := by
  obtain ⟨c, rest, unsigned, first⟩ := text.exists_unsigned_eq_cons
  -- No name of a number and no sign starts so.
  have apart : c.toLower ≠ 'i' ∧ c.toLower ≠ 'n' ∧ c ≠ '-' ∧ c ≠ '+' := by
    rcases first with digit | rfl
    · rw [toLower_of_isDigit digit]
      exact ⟨ne_of_isDigit digit rfl, ne_of_isDigit digit rfl, ne_of_isDigit digit rfl,
        ne_of_isDigit digit rfl⟩
    · decide
  have bare : ∀ d ∈ text.unsigned.head?, d ≠ '-' ∧ d ≠ '+' := by
    rw [unsigned]
    rintro d ⟨⟩
    exact apart.2.2
  have read := text.readDecimal?_unsigned
  rw [chars, Binary64.ofChars?, splitSign_append _ bare]
  dsimp only
  rw [read, unsigned]
  simp [apart]

/-! ## Values -/

theorem value_eq :
    text.value = text.sign.factor * (text.coefficient * 10 ^ text.place) := by
  have ten : (10 : ℚ) ≠ 0 := by norm_num
  rw [value, coefficient, place, digitsValue_append, Nat.cast_add, Nat.cast_mul, cast_tenPow,
    zpow_sub₀ ten, zpow_natCast]
  field_simp

variable {text}

/-- A text with the value of a number is read as that number. -/
theorem ofChars?_of_value {x : Binary64} (finite : x.isFinite = true) (nonzero : x.value ≠ 0)
    (same : text.value = x.value) : Binary64.ofChars? text.chars = some x := by
  obtain ⟨negative, units, onGrid, rfl⟩ := Binary64.isFinite_iff.1 finite
  have amountNonneg : (0 : ℚ) ≤ text.coefficient * 10 ^ text.place := by positivity
  have unitsPos : 0 < magnitude units := by
    apply lt_of_le_of_ne (magnitude_nonneg units)
    intro zero
    apply nonzero
    simp [Binary64.value, ← zero]
  rw [value_eq] at same
  obtain ⟨sign, amount⟩ := Sign.isMinus_and_amount_eq amountNonneg unitsPos same
  rw [ofChars?_chars, sign, Binary64.ofDecimal_of_value onGrid amount]

/-- Five to an exponent. -/
def fivePow (exponent : ℕ) : ℕ := Nat.pow 5 exponent

/-- A part that is a power of two is a power of five that many places behind the point. -/
theorem fivePow_mul_zpow (n : ℕ) :
    ((fivePow n : ℕ) : ℚ) * 10 ^ (-(n : ℤ)) = 1 / (twoPow n : ℕ) := by
  have five : ((fivePow n : ℕ) : ℚ) = 5 ^ n := by exact_mod_cast rfl
  rw [five, cast_twoPow, zpow_neg, zpow_natCast, show (10 : ℚ) = 5 * 2 by norm_num, mul_pow]
  field_simp

/-- The text of a number that counts the place of its last digit. -/
def exact (negative : Bool) (units : ℕ) : DecimalText where
  sign := if negative then .minus else .absent
  whole := .ofCount (units * fivePow 1074)
  fraction? := none
  exponent? := some
    { mark := 'e', isMark := .inl rfl, sign := .minus, digits := .ofCount 1074,
      someDigit := Digits.ofCount_ne_nil 1074 }
  someDigit := .inl (Digits.ofCount_ne_nil _)

/-- Every finite number has a text with its value. -/
theorem value_exact {negative : Bool} {units : ℕ} {onGrid : Representable units} :
    (exact negative units).value = (Binary64.finite negative units onGrid).value := by
  have sign : (exact negative units).sign.isMinus = negative := by
    cases negative with
    | false => rfl
    | true => rfl
  have coefficient : (exact negative units).coefficient = units * fivePow 1074 := by
    show digitsValue ((Digits.ofCount (units * fivePow 1074)).chars ++ []) = _
    rw [List.append_nil, digitsValue_ofCount]
  have place : (exact negative units).place = -((1074 : ℕ) : ℤ) := by
    show Sign.factor .minus * (digitsValue (Digits.ofCount 1074).chars : ℤ) - 0 = _
    rw [digitsValue_ofCount]
    rfl
  have size : ((units * fivePow 1074 : ℕ) : ℚ) * 10 ^ (-((1074 : ℕ) : ℤ)) = magnitude units := by
    rw [Nat.cast_mul, mul_assoc, fivePow_mul_zpow, mul_one_div]
    rfl
  rw [value_eq, Sign.factor_mul, sign, coefficient, place, size]
  rfl

end DecimalText

end SteadyStore
