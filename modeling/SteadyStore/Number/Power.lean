/-!
# Powers of two and ten

The powers that stand for the places of binary and decimal digits. A power of two is a
product of the powers of the parts of its exponent (`twoPow_add`).
-/

namespace SteadyStore

/-- Two to an exponent. -/
def twoPow (exponent : Nat) : Nat := Nat.pow 2 exponent

/-- Ten to an exponent. -/
def tenPow (exponent : Nat) : Nat := Nat.pow 10 exponent

theorem twoPow_zero : twoPow 0 = 1 := rfl

theorem twoPow_pos (n : Nat) : 0 < twoPow n := Nat.two_pow_pos n

theorem tenPow_pos (n : Nat) : 0 < tenPow n := Nat.pow_pos (by decide)

theorem twoPow_add (m n : Nat) : twoPow (m + n) = twoPow m * twoPow n := Nat.pow_add 2 m n

theorem tenPow_add (m n : Nat) : tenPow (m + n) = tenPow m * tenPow n := Nat.pow_add 10 m n

theorem twoPow_le {m n : Nat} (h : m ≤ n) : twoPow m ≤ twoPow n :=
  Nat.pow_le_pow_right (by decide) h

theorem twoPow_lt {m n : Nat} (h : m < n) : twoPow m < twoPow n :=
  Nat.pow_lt_pow_right (by decide) h

theorem twoPow_dvd {m n : Nat} (h : m ≤ n) : twoPow m ∣ twoPow n := Nat.pow_dvd_pow 2 h

theorem log2_twoPow (n : Nat) : (twoPow n).log2 = n := Nat.log2_two_pow

/-- A count has at most `n` binary digits when it is below two to `n`. -/
theorem log2_lt_iff {count n : Nat} (h : count ≠ 0) : count.log2 < n ↔ count < twoPow n :=
  Nat.log2_lt h

theorem lt_twoPow_log2 (count : Nat) : count < twoPow (count.log2 + 1) := Nat.lt_log2_self

end SteadyStore
