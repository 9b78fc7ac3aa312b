import Mathlib.Algebra.Order.Field.Power
import SteadyStore.Number.Decimal
import SteadyStore.Proofs.Number.TwoPowers
/-!
# Decimals and numbers

A decimal is rounded once, to the number nearest to its value: what is decided from the place of
its first digit is what rounding would give (`ofDecimal_eq_roundRatio`). So a decimal with the
value of a number is that number (`ofDecimal_of_value`).
-/

namespace SteadyStore

/-! ## Places -/

theorem tenPow_le {m n : ℕ} (h : m ≤ n) : tenPow m ≤ tenPow n :=
  Nat.pow_le_pow_right (by decide) h

theorem lt_tenPow_length (n : ℕ) : n < tenPow (Nat.toDigits 10 n).length :=
  (Nat.length_toDigits_le_iff (by decide) (List.length_pos_of_ne_nil Nat.toDigits_ne_nil)).1 le_rfl

/-- The first digit of a number is not a zero. -/
theorem tenPow_le_of_length {n places : ℕ} (hn : n ≠ 0)
    (h : places < (Nat.toDigits 10 n).length) : tenPow places ≤ n := by
  by_contra less
  rcases Nat.eq_zero_or_pos places with rfl | some
  · exact less (Nat.one_le_iff_ne_zero.2 hn)
  · have short := (Nat.length_toDigits_le_iff (by decide) some).2 (Nat.not_le.1 less)
    omega

theorem cast_tenPow (exponent : ℕ) : ((tenPow exponent : ℕ) : ℚ) = 10 ^ exponent := by
  exact_mod_cast rfl

theorem zpow_eq_tenPow (exponent : ℤ) :
    (10 : ℚ) ^ exponent = tenPow exponent.toNat / tenPow (-exponent).toNat := by
  have parts : exponent = (exponent.toNat : ℤ) - ((-exponent).toNat : ℤ) := by omega
  calc (10 : ℚ) ^ exponent
      = 10 ^ ((exponent.toNat : ℤ) - ((-exponent).toNat : ℤ)) := by rw [← parts]
    _ = 10 ^ (exponent.toNat : ℤ) / 10 ^ ((-exponent).toNat : ℤ) := zpow_sub₀ (by norm_num) _ _
    _ = tenPow exponent.toNat / tenPow (-exponent).toNat := by
        rw [zpow_natCast, zpow_natCast, cast_tenPow, cast_tenPow]

namespace Binary64

/-! ## Numbers near zero and far away -/

/-- Less than half a unit is rounded to zero. -/
theorem roundRatio_of_lt {num den : ℕ} (negative : Bool) (h : 2 * num < den) :
    roundRatio negative num den = zero negative := by
  have first : num / den = 0 := Nat.div_eq_of_lt (by omega)
  have nothing : nearestUnits num den = 0 := by
    have none : nearestEven num den ≤ 0 := nearestEven_le_of_lt (by omega)
    rw [nearestUnits, first, gridStep_eq_one (twoPow_pos 53), Nat.mul_one, Nat.mul_one]
    exact Nat.le_zero.1 none
  exact roundRatio_of_nearestUnits negative nothing representable_zero

theorem roundRatio_of_limit_le {num den : ℕ} (negative : Bool) (hd : 0 < den)
    (h : unitsLimit * den ≤ num) : roundRatio negative num den = .infinite negative :=
  roundRatio_of_le (le_nearestUnits_of_le hd (gridStep_dvd_twoPow 2098) h)

/-! ## Decimals -/

/-- The number of a decimal is the one nearest to its value. -/
theorem ofDecimal_eq_roundRatio (negative : Bool) (coefficient : ℕ) (exponent : ℤ) :
    ofDecimal negative coefficient exponent =
      roundRatio negative (coefficient * tenPow exponent.toNat * unitsPerOne)
        (tenPow (-exponent).toNat) := by
  obtain ⟨places, hplaces⟩ : ∃ places, (Nat.toDigits 10 coefficient).length = places := ⟨_, rfl⟩
  obtain ⟨up, hup⟩ : ∃ up, exponent.toNat = up := ⟨_, rfl⟩
  obtain ⟨down, hdown⟩ : ∃ down, (-exponent).toNat = down := ⟨_, rfl⟩
  have below : coefficient < tenPow places := hplaces ▸ lt_tenPow_length coefficient
  have somePlace : 0 < places := hplaces ▸ List.length_pos_of_ne_nil Nat.toDigits_ne_nil
  unfold ofDecimal
  simp only [hplaces, hup, hdown]
  split
  · rename_i small
    symm
    apply roundRatio_of_lt
    rcases small with rfl | early
    · simpa using tenPow_pos down
    · -- The first digit stands more than 330 places behind the point.
      have unit : 2 * unitsPerOne ≤ tenPow 331 := by decide +kernel
      have noZeros : up = 0 := by omega
      calc 2 * (coefficient * tenPow up * unitsPerOne)
          = coefficient * (2 * unitsPerOne) := by
            rw [noZeros, show tenPow 0 = 1 from rfl, Nat.mul_one, Nat.mul_left_comm]
        _ ≤ coefficient * tenPow 331 := Nat.mul_le_mul_left coefficient unit
        _ < tenPow places * tenPow 331 := (Nat.mul_lt_mul_right (tenPow_pos 331)).2 below
        _ = tenPow (places + 331) := (tenPow_add places 331).symm
        _ ≤ tenPow down := tenPow_le (by omega)
  rename_i small
  rw [not_or] at small
  split
  · -- It stands more than 310 places in front of the point.
    symm
    apply roundRatio_of_limit_le negative (tenPow_pos down)
    have limit : unitsLimit ≤ tenPow 310 * unitsPerOne := by decide +kernel
    have first : tenPow (places - 1) ≤ coefficient := tenPow_le_of_length small.1 (by omega)
    calc unitsLimit * tenPow down
        ≤ tenPow 310 * unitsPerOne * tenPow down := Nat.mul_le_mul_right (tenPow down) limit
      _ = tenPow (310 + down) * unitsPerOne := by rw [tenPow_add, Nat.mul_right_comm]
      _ ≤ tenPow (places - 1 + up) * unitsPerOne :=
          Nat.mul_le_mul_right unitsPerOne (tenPow_le (by omega))
      _ = tenPow (places - 1) * tenPow up * unitsPerOne := by rw [tenPow_add]
      _ ≤ coefficient * tenPow up * unitsPerOne :=
          Nat.mul_le_mul_right unitsPerOne (Nat.mul_le_mul_right (tenPow up) first)
  · rfl

/-- A decimal with the value of a number is that number. -/
theorem ofDecimal_of_value {negative : Bool} {coefficient units : ℕ} {exponent : ℤ}
    (onGrid : Representable units) (same : coefficient * 10 ^ exponent = magnitude units) :
    ofDecimal negative coefficient exponent = .finite negative units onGrid := by
  have down : (0 : ℚ) < tenPow (-exponent).toNat := by exact_mod_cast tenPow_pos _
  have counted : coefficient * tenPow exponent.toNat * unitsPerOne =
      units * tenPow (-exponent).toNat := by
    rw [zpow_eq_tenPow, magnitude, mul_div_assoc', div_eq_div_iff down.ne' unitsPerOne_cast_pos.ne']
      at same
    exact_mod_cast same
  rw [ofDecimal_eq_roundRatio, counted]
  exact roundRatio_of_nearestUnits negative (nearestUnits_of_dvd (tenPow_pos _) onGrid.2) onGrid

end Binary64

end SteadyStore
