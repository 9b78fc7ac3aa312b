import SteadyStore.Number.Binary64
/-!
# Reading numbers

Decimal text with an optional sign, fraction and exponent, read to the nearest
number; also the names of infinity and of what is not a number, in any case.
-/

namespace SteadyStore

/-- A leading sign, and whether it is a minus. -/
def splitSign : List Char → Bool × List Char
  | '-' :: rest => (true, rest)
  | '+' :: rest => (false, rest)
  | cs => (false, cs)

/-- The count that decimal digits write. -/
def digitsValue (digits : List Char) : Nat :=
  digits.foldl (fun n c => 10 * n + (c.toNat - '0'.toNat)) 0

/-- The exponent part of a decimal: nothing, or `e`, a sign and digits. -/
def readExponent? : List Char → Option Int
  | [] => some 0
  | mark :: rest =>
    let (negative, digits) := splitSign rest
    if (mark = 'e' ∨ mark = 'E') ∧ digits ≠ [] ∧ digits.all Char.isDigit then
      some (if negative then -(digitsValue digits : Int) else digitsValue digits)
    else none

/-- A decimal without sign: the value is the first part times ten to the second.
A digit is needed before or after the point. -/
def readDecimal? (cs : List Char) : Option (Nat × Int) :=
  let whole := cs.takeWhile Char.isDigit
  let rest := cs.dropWhile Char.isDigit
  let (fraction, rest) :=
    match rest with
    | '.' :: rest => (rest.takeWhile Char.isDigit, rest.dropWhile Char.isDigit)
    | rest => ([], rest)
  if whole.isEmpty && fraction.isEmpty then none
  else (readExponent? rest).map fun exponent =>
    (digitsValue (whole ++ fraction), exponent - fraction.length)

namespace Binary64

/-- The number nearest to `coefficient * 10 ^ exponent`. Decimals from `10 ^ 310`
on are infinite and those below `10 ^ (-330)` are zero, which spares their powers
of ten. -/
def ofDecimal (negative : Bool) (coefficient : Nat) (exponent : Int) : Binary64 :=
  let place := (Nat.toDigits 10 coefficient).length + exponent
  if coefficient = 0 ∨ place < -330 then zero negative
  else if 310 < place then .infinite negative
  else roundRatio negative (coefficient * tenPow exponent.toNat * unitsPerOne)
    (tenPow (-exponent).toNat)

/-- The number a text names, if it names one. -/
def ofChars? (cs : List Char) : Option Binary64 :=
  let (negative, magnitude) := splitSign cs
  let name := magnitude.map Char.toLower
  if name = "inf".toList ∨ name = "infinity".toList then some (.infinite negative)
  else if name = "nan".toList then some .nan
  else (readDecimal? magnitude).map fun (coefficient, exponent) =>
    ofDecimal negative coefficient exponent

end Binary64

theorem digitsValue_append_digit (digits : List Char) (c : Char) :
    digitsValue (digits ++ [c]) = 10 * digitsValue digits + (c.toNat - '0'.toNat) := by
  simp [digitsValue]

end SteadyStore
