import SteadyStore.Number.Shortest
/-!
# Spans of time

A span is a whole number of nanoseconds, at most `2 ^ 64 - 1` seconds and
999,999,999 nanoseconds. Sums stop at that bound (`add`). A span is read as a
floating point number of seconds (`inSeconds`), and a number of seconds becomes
the nearest span (`ofSeconds?`).
-/

namespace SteadyStore

/-- The longest span, in nanoseconds. -/
def longestNanos : Nat := (UInt64.size - 1) * 1000000000 + 999999999

/-- A span of time in nanoseconds. -/
structure Duration where
  nanos : Nat
  inRange : nanos ≤ longestNanos
deriving DecidableEq

namespace Duration

def zero : Duration := ⟨0, Nat.zero_le _⟩

def longest : Duration := ⟨longestNanos, Nat.le_refl _⟩

/-- The span of so many nanoseconds, or the longest one. -/
def ofNanos (nanos : Nat) : Duration := ⟨min nanos longestNanos, Nat.min_le_right _ _⟩

def ofMillis (millis : UInt64) : Duration :=
  ⟨millis.toNat * 1000000, by have := millis.toNat_lt; simp only [longestNanos, UInt64.size]; omega⟩

instance : LE Duration := ⟨fun a b => a.nanos ≤ b.nanos⟩

instance : LT Duration := ⟨fun a b => a.nanos < b.nanos⟩

instance (a b : Duration) : Decidable (a ≤ b) := inferInstanceAs (Decidable (a.nanos ≤ b.nanos))

instance (a b : Duration) : Decidable (a < b) := inferInstanceAs (Decidable (a.nanos < b.nanos))

theorem le_iff {a b : Duration} : a ≤ b ↔ a.nanos ≤ b.nanos := Iff.rfl

theorem ext_nanos {a b : Duration} (h : a.nanos = b.nanos) : a = b := by
  cases a; cases b; simp_all

/-! ## Parts -/

/-- The whole seconds. -/
def seconds (d : Duration) : Nat := d.nanos / 1000000000

/-- The nanoseconds past the whole seconds. -/
def subsecond (d : Duration) : Nat := d.nanos % 1000000000

/-- The whole milliseconds. -/
def millis (d : Duration) : Nat := d.nanos / 1000000

/-- The milliseconds a timer waits for the span: rounded up, and never more than
thirty years. -/
def timerMillis (d : Duration) : Nat := min ((d.nanos + 999999) / 1000000) 946080000000

/-! ## Sums -/

/-- The sum, or the longest span if that is shorter. -/
def add (a b : Duration) : Duration := ofNanos (a.nanos + b.nanos)

instance : Add Duration := ⟨add⟩

theorem nanos_add (a b : Duration) : (a + b).nanos = min (a.nanos + b.nanos) longestNanos := rfl

/-! ## Seconds as floating point numbers -/

/-- The span in seconds: the whole seconds and the rest are rounded one by one,
and then their sum. -/
def inSeconds (d : Duration) : Binary64 :=
  .add (.ofNat d.seconds) (.ofRatio d.subsecond 1000000000)

/-- The span nearest to a number of seconds, a tie going to the even nanosecond.
Negative numbers, numbers out of range and what is not a number have none. -/
def ofSeconds? : Binary64 → Option Duration
  | .finite negative units _ =>
    let nanos := nearestEven (units * 1000000000) unitsPerOne
    if negative ∧ units ≠ 0 then none
    else if h : nanos ≤ longestNanos then some ⟨nanos, h⟩ else none
  | _ => none

/-! ## Text -/

/-- The digits of a fraction below one, given in parts of `10 ^ places`, without
trailing zeros. -/
def fractionDigits (places part : Nat) : List Char :=
  let digits := Nat.toDigits 10 part
  ((List.replicate (places - digits.length) '0' ++ digits).reverse.dropWhile (· = '0')).reverse

/-- A count of a unit of `10 ^ places` nanoseconds, with its fraction. -/
def inUnit (d : Duration) (places : Nat) (unit : String) : String :=
  let fraction := fractionDigits places (d.nanos % tenPow places)
  toString (d.nanos / tenPow places) ++
    (if fraction.isEmpty then "" else "." ++ String.ofList fraction) ++ unit

/-- The span in the largest unit of which it holds at least one. -/
def text (d : Duration) : String :=
  if 1000000000 ≤ d.nanos then d.inUnit 9 "s"
  else if 1000000 ≤ d.nanos then d.inUnit 6 "ms"
  else if 1000 ≤ d.nanos then d.inUnit 3 "µs"
  else d.inUnit 0 "ns"

end Duration

end SteadyStore
