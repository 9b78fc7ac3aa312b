import SteadyStore.Number.Binary64
/-!
# The shortest decimal text of a number

The reals that round to a number form an interval around it. Of the decimals in
that interval the text has the fewest digits, and of those the nearest to the
number (`shortest`). A `NumberStyle` says which of two equally near decimals is
taken and how the digits are laid out.
-/

namespace SteadyStore

/-- Significant decimal digits, the first and the last not zero, with the place
of the decimal point: `point` digits stand before it, so that a point at zero or
below is followed by that many zeros. -/
structure Decimal where
  digits : List Char
  point : Int
deriving DecidableEq, Repr

/-! ## The interval of a magnitude -/

/-- Half the distance to the neighbour above, in quarter units. -/
def reachAbove (units : Nat) : Nat := 2 * gridStep units

/-- Half the distance to the neighbour below, in quarter units: it is half as
far at a power of two. -/
def reachBelow (units : Nat) : Nat :=
  if gridStep units ≠ 1 ∧ units = twoPow 52 * gridStep units then gridStep units
  else 2 * gridStep units

/-- The fraction `num / den` of a unit rounds to `units`. The ends of the interval
do when the last binary digit of the magnitude is zero. -/
def roundsTo (units num den : Nat) : Bool :=
  let low := (4 * units - reachBelow units) * den
  let high := (4 * units + reachAbove units) * den
  if units / gridStep units % 2 = 0 then low ≤ 4 * num && 4 * num ≤ high
  else low < 4 * num && 4 * num < high

/-! ## The fewest digits -/

/-- The place of the decimal point of a positive magnitude: the number of decimal
digits before it, or, negated, of zeros after it. -/
def decimalPlace (units : Nat) : Int :=
  (Nat.toDigits 10 (units * tenPow 400 / unitsPerOne)).length - 400

/-- Which of two decimals is taken when both are equally near. -/
inductive Tie
  /-- The greater one. -/
  | up
  /-- The one whose last digit is even. -/
  | even
deriving DecidableEq, Repr

/-- The one that is taken of a coefficient and the next, both equally near. -/
def Tie.choose (tie : Tie) (below : Nat) : Nat :=
  match tie with
  | .up => below + 1
  | .even => if below % 2 = 0 then below else below + 1

/-- A positive magnitude among the decimals with `count` digits: the nearest of
them that rounds to it, if any does. -/
def nearestOfDigits? (tie : Tie) (units : Nat) (place : Int) (count : Nat) : Option Nat :=
  let exponent := place - count
  let scaleUp := tenPow (-exponent).toNat
  let scaleDown := unitsPerOne * tenPow exponent.toNat
  let below := units * scaleUp / scaleDown
  let above := below + 1
  let low := roundsTo units (below * scaleDown) scaleUp
  let high := roundsTo units (above * scaleDown) scaleUp
  if low && high then
    let doubled := 2 * units * scaleUp
    let middle := (below + above) * scaleDown
    if doubled < middle then some below
    else if middle < doubled then some above
    else some (tie.choose below)
  else if low then some below
  else if high then some above
  else none

/-- The first of `fuel` digit counts, from `count` on, that yields a decimal. -/
def firstDigits (tie : Tie) (units : Nat) (place : Int) (count : Nat) : Nat → Nat × Int
  | 0 => (units, place - count)
  | fuel + 1 =>
    match nearestOfDigits? tie units place count with
    | some coefficient => (coefficient, place - count)
    | none => firstDigits tie units place (count + 1) fuel

/-- Seventeen digits always suffice. -/
def shortest (tie : Tie) (units : Nat) : Decimal :=
  let (coefficient, exponent) := firstDigits tie units (decimalPlace units) 1 17
  let digits := Nat.toDigits 10 coefficient
  ⟨(digits.reverse.dropWhile (· = '0')).reverse, digits.length + exponent⟩

/-! ## Layout -/

/-- How a number is written. -/
structure NumberStyle where
  /-- Whole numbers end in `.0`. -/
  marksWhole : Bool
  /-- The places of the point for which no exponent is used. -/
  positional : Int → Bool
  /-- A positive exponent has a sign. -/
  signsExponent : Bool
  /-- The decimal that is taken when two are equally near. -/
  tie : Tie

/-- Never an exponent, and whole numbers without a point. -/
def NumberStyle.plain : NumberStyle := ⟨false, fun _ => true, false, .up⟩

/-- An exponent from `10 ^ 16` on and below `10 ^ (-4)`; whole numbers end in `.0`. -/
def NumberStyle.marked : NumberStyle := ⟨true, fun point => -4 < point ∧ point ≤ 16, false, .up⟩

/-- A signed exponent from `10 ^ 16` on and below `10 ^ (-5)`; whole numbers end in `.0`, and
ties go to the even digit. -/
def NumberStyle.document : NumberStyle :=
  ⟨true, fun point => -5 < point ∧ point ≤ 16, true, .even⟩

/-- Digits around a decimal point. -/
def Decimal.positional (d : Decimal) (marksWhole : Bool) : List Char :=
  if d.point ≤ 0 then ['0', '.'] ++ List.replicate (-d.point).toNat '0' ++ d.digits
  else if d.digits.length ≤ d.point.toNat then
    d.digits ++ List.replicate (d.point.toNat - d.digits.length) '0' ++
      (if marksWhole then ['.', '0'] else [])
  else d.digits.take d.point.toNat ++ ['.'] ++ d.digits.drop d.point.toNat

/-- One digit, the others after a point, and the exponent. -/
def Decimal.scientific (d : Decimal) (signsExponent : Bool) : List Char :=
  let exponent := d.point - 1
  d.digits.take 1 ++ (if d.digits.length ≤ 1 then [] else '.' :: d.digits.drop 1) ++
    'e' :: (if exponent < 0 then ['-'] else if signsExponent then ['+'] else []) ++
    Nat.toDigits 10 exponent.natAbs

/-- A positive magnitude, or zero, in a style. -/
def NumberStyle.magnitude (style : NumberStyle) (units : Nat) : List Char :=
  if units = 0 then (if style.marksWhole then ['0', '.', '0'] else ['0'])
  else
    let d := shortest style.tie units
    if style.positional d.point then d.positional style.marksWhole
    else d.scientific style.signsExponent

/-- A number in a style. -/
def NumberStyle.write (style : NumberStyle) : Binary64 → String
  | .nan => "NaN"
  | .infinite negative => if negative then "-inf" else "inf"
  | .finite negative units _ =>
    (if negative then "-" else "") ++ String.ofList (style.magnitude units)

end SteadyStore
