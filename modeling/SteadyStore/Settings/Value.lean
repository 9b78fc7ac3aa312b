import SteadyStore.Number.Decimal
import SteadyStore.Text.Blank
/-!
# Values of variables

A variable holds a text, and a setting reads its value from that text. Numbers are written
in decimal digits with an optional sign. Of a digit that is none and a number that is out of
range, the one that is reached first is the fault.
-/

namespace SteadyStore

/-- Why a text is not the value that was asked for. -/
inductive ValueFault
  | noDigits | badDigit | tooLarge | tooSmall
  | noDecimal | badDecimal
  | notBool
  | noCharacter | manyCharacters
deriving DecidableEq, Repr

def ValueFault.message : ValueFault → String
  | .noDigits => "cannot parse integer from empty string"
  | .badDigit => "invalid digit found in string"
  | .tooLarge => "number too large to fit in target type"
  | .tooSmall => "number too small to fit in target type"
  | .noDecimal => "cannot parse float from empty string"
  | .badDecimal => "invalid float literal"
  | .notBool => "provided string was not `true` or `false`"
  | .noCharacter => "cannot parse char from empty string"
  | .manyCharacters => "too many characters in string"

/-- What reads a value from a text. -/
abbrev ValueReader (α : Type) := List Char → Except ValueFault α

namespace ValueReader

/-! ## Whole numbers -/

/-- Reads digits from the left and adds them to a count, which may not exceed the greatest. -/
def readDigits (greatest : Nat) (beyond : ValueFault) (count : Nat) : ValueReader Nat
  | [] => .ok count
  | c :: cs =>
    if c.isDigit then
      let next := 10 * count + (c.toNat - '0'.toNat)
      if next ≤ greatest then readDigits greatest beyond next cs else .error beyond
    else .error .badDigit

/-- Reads a number that has at least one digit. -/
def readCount (greatest : Nat) (beyond : ValueFault) : ValueReader Nat
  | [] => .error .badDigit
  | cs => readDigits greatest beyond 0 cs

/-- A number up to the greatest, with no sign or a plus. -/
def count (greatest : Nat) : ValueReader Nat
  | [] => .error .noDigits
  | '+' :: cs => readCount greatest .tooLarge cs
  | cs => readCount greatest .tooLarge cs

/-- A number of so many bits, one of them the sign. -/
def signed (bits : Nat) : ValueReader Int
  | [] => .error .noDigits
  | '+' :: cs => (readCount (twoPow (bits - 1) - 1) .tooLarge cs).map Int.ofNat
  | '-' :: cs => (readCount (twoPow (bits - 1)) .tooSmall cs).map fun n => -(n : Int)
  | cs => (readCount (twoPow (bits - 1) - 1) .tooLarge cs).map Int.ofNat

def word8 : ValueReader UInt8 := fun cs => (count (UInt8.size - 1) cs).map UInt8.ofNat

def word32 : ValueReader UInt32 := fun cs => (count (UInt32.size - 1) cs).map UInt32.ofNat

def word64 : ValueReader UInt64 := fun cs => (count (UInt64.size - 1) cs).map UInt64.ofNat

/-! ## Other values -/

/-- A floating point number. -/
def decimal : ValueReader Binary64
  | [] => .error .noDecimal
  | cs =>
    match Binary64.ofChars? cs with
    | none => .error .badDecimal
    | some x => .ok x

def bool : ValueReader Bool := fun cs =>
  if cs = "true".toList then .ok true
  else if cs = "false".toList then .ok false
  else .error .notBool

def character : ValueReader Char
  | [] => .error .noCharacter
  | [c] => .ok c
  | _ => .error .manyCharacters

def text : ValueReader String := fun cs => .ok (String.ofList cs)

end ValueReader

end SteadyStore
