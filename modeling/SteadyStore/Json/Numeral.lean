import SteadyStore.Json.Basic
import SteadyStore.Json.Cursor
/-!
# Numbers in documents

A number without fraction and exponent is whole as long as it fits 64 bits. Every
other number is floating point: the digits that fit 64 bits form a significand, and
the significand is scaled by a power of ten, rounding at each step.
-/

namespace SteadyStore.Json

def isDigit (b : UInt8) : Bool := 48 ≤ b && b ≤ 57

/-- The leading digits of a text, as numbers. -/
def leadingDigits (bytes : List UInt8) : List Nat :=
  (bytes.takeWhile isDigit).map fun b => b.toNat - 48

/-- Appends digits to a significand while it fits 64 bits; the digits that do not are
left over. -/
def appendDigits (significand : Nat) : List Nat → Nat × List Nat
  | [] => (significand, [])
  | digit :: digits =>
    if 10 * significand + digit < twoPow 64 then appendDigits (10 * significand + digit) digits
    else (significand, digit :: digits)

/-! ## Scaling -/

def isZero : Binary64 → Bool
  | .finite _ units _ => units = 0
  | _ => false

/-- Scales by a power of ten in one multiplication or division, or in several
divisions below `10 ^ (-308)`; `none` when the result is out of range. -/
def scale? (x : Binary64) (exponent : Int) : Option Binary64 :=
  if exponent < -308 then
    if isZero x then some x else scale? (x.div (.ofNat (tenPow 308))) (exponent + 308)
  else if exponent < 0 then some (x.div (.ofNat (tenPow (-exponent).toNat)))
  else if exponent ≤ 308 then
    let product := x.mul (.ofNat (tenPow exponent.toNat))
    if product.isFinite then some product else none
  else if isZero x then some x
  else none
termination_by (-exponent).toNat
decreasing_by omega

/-- The number of a significand, a power of ten and a sign. -/
def floatOfParts (negative : Bool) (significand : Nat) (exponent : Int) : Reader Json :=
  match scale? (.ofNat significand) exponent with
  | some x => return .float (if negative then x.neg else x)
  | none => Reader.fail .numberOutOfRange

/-! ## Parts of a number -/

open Reader

/-- The digits in front of the cursor. -/
def digitsAhead : Reader (List Nat) := return leadingDigits (← get).rest

/-- The greatest exponent that is read digit by digit. -/
def exponentLimit : Nat := twoPow 31 - 1

/-- The value of exponent digits, with the number of digits read. It stops at the first
digit that goes over the limit, which the flag tells. -/
def exponentValue (value : Nat) (count : Nat) : List Nat → Nat × Nat × Bool
  | [] => (value, count, false)
  | digit :: digits =>
    if exponentLimit < 10 * value + digit then (value, count + 1, true)
    else exponentValue (10 * value + digit) (count + 1) digits

/-- The sign of an exponent; it may be missing. -/
def readExponentSign : Reader Bool := do
  match ← peek? with
  | some 43 => skip 1; return false
  | some 45 => skip 1; return true
  | _ => return false

/-- The rest of a number from its exponent mark on. An exponent over the limit is out
of range, or makes zero. -/
def readExponent (negative : Bool) (significand : Nat) (exponent : Int) : Reader Json := do
  skip 1
  let down ← readExponentSign
  let digits ← digitsAhead
  if digits.isEmpty then
    if (← peek?).isNone then fail .endInValue
    skip 1
    fail .invalidNumber
  match exponentValue 0 0 digits with
  | (value, _, false) =>
    skip digits.length
    floatOfParts negative significand (if down then exponent - value else exponent + value)
  | (_, count, true) =>
    if significand ≠ 0 ∧ !down then
      skip count
      fail .numberOutOfRange
    skip digits.length
    return .float (.zero negative)

/-- The rest of a number behind its fraction. -/
def readScaled (negative : Bool) (significand : Nat) (exponent : Int) : Reader Json := do
  match ← peek? with
  | some 101 | some 69 => readExponent negative significand exponent
  | _ => floatOfParts negative significand exponent

/-- The rest of a number from its point on. Digits that do not fit are dropped. -/
def readFraction (negative : Bool) (significand : Nat) (exponent : Int) : Reader Json := do
  skip 1
  let digits ← digitsAhead
  if digits.isEmpty then
    failAtNext (if (← peek?).isNone then .endInValue else .invalidNumber)
  skip digits.length
  let (significand, dropped) := appendDigits significand digits
  readScaled negative significand (exponent - (digits.length - dropped.length : Nat))

/-- A whole number with a sign. Negative zero and numbers below the range of 64 bits
are floating point. -/
def signedWhole (negative : Bool) (significand : Nat) : Json :=
  if !negative then .whole significand
  else if significand = 0 ∨ twoPow 63 < significand then .float (Binary64.ofNat significand).neg
  else .whole (-significand)

/-- A number behind its sign. A zero stands alone before the point. -/
def readMagnitude (negative : Bool) : Reader Json := do
  let digits ← digitsAhead
  match digits with
  | [] =>
    if (← peek?).isNone then fail .endInValue
    skip 1
    fail .invalidNumber
  | 0 :: _ :: _ =>
    skip 1
    failAtNext .invalidNumber
  | _ =>
    skip digits.length
    let (significand, dropped) := appendDigits 0 digits
    match ← peek? with
    | some 46 => readFraction negative significand dropped.length
    | some 101 | some 69 => readExponent negative significand dropped.length
    | _ =>
      if dropped.isEmpty then return signedWhole negative significand
      else floatOfParts negative significand dropped.length

/-- A number: a minus, if there is one, and a magnitude. -/
def readNumber : Reader Json := do
  match ← peek? with
  | some 45 =>
    skip 1
    readMagnitude true
  | _ => readMagnitude false

end SteadyStore.Json
