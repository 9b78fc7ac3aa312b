import SteadyStore.Proofs.Number.Accuracy
/-!
# Powers of two

Arithmetic with powers of two does not round: their products and powers are exact as long as they are in
range (`pow_ofNat_twoPow`), and so is the product of any number with one (`approximates_mul_twoPow`).
-/

namespace SteadyStore

/-! ## Moving digits -/

theorem gridStep_dvd_twoPow (exponent : ℕ) : gridStep (twoPow exponent) ∣ twoPow exponent := by
  have one : gridStep (1 * twoPow exponent) ∣ 1 * twoPow exponent :=
    gridStep_dvd_mul (twoPow_le (Nat.zero_le 53))
  rwa [Nat.one_mul] at one

/-- The grid is kept when all digits move to the left. -/
theorem gridStep_dvd_mul_twoPow {units : ℕ} (h : gridStep units ∣ units) (exponent : ℕ) :
    gridStep (units * twoPow exponent) ∣ units * twoPow exponent := by
  have moved : units * twoPow exponent =
      units / gridStep units * twoPow (units.log2 - 52 + exponent) := by
    rw [twoPow_add, ← Nat.mul_assoc]
    exact congrArg (· * twoPow exponent) (Nat.div_mul_cancel h).symm
  rw [moved]
  exact gridStep_dvd_mul (Nat.le_of_lt (div_gridStep_lt units))

theorem cast_twoPow (exponent : ℕ) : ((twoPow exponent : ℕ) : ℚ) = 2 ^ exponent := by
  exact_mod_cast rfl

theorem magnitude_mul_twoPow (units exponent : ℕ) :
    magnitude (units * twoPow exponent) = magnitude units * 2 ^ exponent := by
  rw [magnitude, Nat.cast_mul, cast_twoPow, mul_div_right_comm, ← magnitude]

namespace Binary64

/-- A magnitude on the grid is the same number in whatever parts of a unit it is counted. -/
theorem roundRatio_mul_right {units den : ℕ} (hd : 0 < den) (onGrid : gridStep units ∣ units) :
    roundRatio false (units * den) den = roundRatio false units 1 := by
  have whole := nearestUnits_of_dvd Nat.one_pos onGrid
  rw [Nat.mul_one] at whole
  have parts := nearestUnits_of_dvd hd onGrid
  simp only [roundRatio, whole, parts]

/-- A magnitude on the grid is not rounded, though it may be out of range. -/
theorem approximates_roundRatio_one {rounds units : ℕ} {exact : ℚ} (onGrid : gridStep units ∣ units)
    (near : Near rounds (magnitude units) exact) :
    (roundRatio false units 1).Approximates rounds exact := by
  have whole := nearestUnits_of_dvd Nat.one_pos onGrid
  rw [Nat.mul_one] at whole
  rcases Nat.lt_or_ge units unitsLimit with inRange | beyond
  · rw [roundRatio_eq whole ⟨inRange, onGrid⟩]
    exact .finite near
  · rw [roundRatio_of_le (by rwa [whole])]
    exact .infinite (le_trans (magnitude_le.2 beyond) near.le)

/-! ## Powers of two as numbers -/

theorem ofNat_twoPow (k : ℕ) : ofNat (twoPow k) = roundRatio false (twoPow k * unitsPerOne) 1 := rfl

theorem twoPow_mul_unitsPerOne (k : ℕ) : twoPow k * unitsPerOne = twoPow (k + 1074) :=
  (twoPow_add k 1074).symm

theorem finite_congr {x y : ℕ} {hx : Representable x} {hy : Representable y} (h : x = y) :
    Binary64.finite false x hx = .finite false y hy := by
  cases h
  rfl

theorem lt_of_twoPow_mul_unitsPerOne_lt {k : ℕ} (h : twoPow k * unitsPerOne < unitsLimit) :
    k < 1024 := by
  by_contra beyond
  rw [twoPow_mul_unitsPerOne] at h
  have past : twoPow 2098 ≤ twoPow (k + 1074) :=
    twoPow_le (Nat.add_le_add_right (Nat.not_lt.1 beyond) 1074)
  exact Nat.not_le.2 h past

theorem representable_twoPow_mul_unitsPerOne {k : ℕ} (h : k < 1024) :
    Representable (twoPow k * unitsPerOne) := by
  rw [twoPow_mul_unitsPerOne]
  exact representable_twoPow (Nat.add_lt_add_right h 1074)

theorem ofNat_twoPow_of_lt {k : ℕ} (h : k < 1024) :
    ofNat (twoPow k) =
      .finite false (twoPow k * unitsPerOne) (representable_twoPow_mul_unitsPerOne h) := by
  have whole := nearestUnits_of_dvd Nat.one_pos (representable_twoPow_mul_unitsPerOne h).2
  rw [Nat.mul_one] at whole
  exact roundRatio_eq whole _

theorem ofNat_twoPow_of_le {k : ℕ} (h : 1024 ≤ k) : ofNat (twoPow k) = .infinite false := by
  rw [ofNat_twoPow, twoPow_mul_unitsPerOne]
  refine roundRatio_of_le (le_nearestUnits_of_le Nat.one_pos (gridStep_dvd_twoPow 2098) ?_)
  rw [Nat.mul_one]
  exact twoPow_le (Nat.add_le_add_right h 1074)

theorem atLeastOne_ofNat_twoPow (k : ℕ) : (ofNat (twoPow k)).AtLeastOne := by
  rcases Nat.lt_or_ge k 1024 with inRange | beyond
  · rw [ofNat_twoPow_of_lt inRange]
    exact .finite (Nat.le_mul_of_pos_left _ (twoPow_pos k))
  · rw [ofNat_twoPow_of_le beyond]
    exact .infinite

theorem mul_ofNat_twoPow (j k : ℕ) :
    mul (ofNat (twoPow j)) (ofNat (twoPow k)) = ofNat (twoPow (j + k)) := by
  rcases Nat.lt_or_ge j 1024 with hj | hj
  · rcases Nat.lt_or_ge k 1024 with hk | hk
    · have onGrid : gridStep (twoPow (j + k) * unitsPerOne) ∣ twoPow (j + k) * unitsPerOne := by
        rw [twoPow_mul_unitsPerOne]
        exact gridStep_dvd_twoPow _
      have product : twoPow j * unitsPerOne * (twoPow k * unitsPerOne) =
          twoPow (j + k) * unitsPerOne * unitsPerOne := by
        rw [twoPow_add]
        ring
      rw [ofNat_twoPow_of_lt hj, ofNat_twoPow_of_lt hk, mul_finite, product,
        roundRatio_mul_right unitsPerOne_pos onGrid, ofNat_twoPow]
    · rw [ofNat_twoPow_of_le hk, (atLeastOne_ofNat_twoPow j).mul_infinite,
        ofNat_twoPow_of_le (Nat.le_add_left_of_le hk)]
  · rw [ofNat_twoPow_of_le hj, (atLeastOne_ofNat_twoPow k).infinite_mul,
      ofNat_twoPow_of_le (Nat.le_add_right_of_le hj)]

theorem powLoop_ofNat_twoPow (j k exponent : ℕ) :
    powLoop (ofNat (twoPow j)) (ofNat (twoPow k)) exponent = ofNat (twoPow (j + k * exponent)) := by
  induction exponent using Nat.evenOddRec generalizing j k with
  | h0 => rw [powLoop_zero, Nat.mul_zero, Nat.add_zero]
  | h_even n ih =>
    rw [powLoop_even, mul_ofNat_twoPow, ih, show (k + k) * n = k * (2 * n) by ring]
  | h_odd n ih =>
    rw [powLoop_odd, mul_ofNat_twoPow, mul_ofNat_twoPow, ih,
      show j + k + (k + k) * n = j + k * (2 * n + 1) by ring]

/-- A power of a power of two is exact, or out of range. -/
theorem pow_ofNat_twoPow (k exponent : ℕ) :
    (ofNat (twoPow k)).pow exponent = ofNat (twoPow (k * exponent)) := by
  have loop := powLoop_ofNat_twoPow 0 k exponent
  rwa [Nat.zero_add] at loop

theorem magnitude_twoPow_mul (k : ℕ) : magnitude (twoPow k * unitsPerOne) = 2 ^ k := by
  rw [Nat.mul_comm, magnitude_mul_twoPow, magnitude_unitsPerOne, one_mul]

/-- Powers of two past the last one in range are out of range. -/
theorem rangeEnd_le {k : ℕ} (h : 1024 ≤ k) : rangeEnd ≤ 2 ^ k := by
  rw [← magnitude_twoPow_mul, twoPow_mul_unitsPerOne]
  exact magnitude_le.2 (twoPow_le (Nat.add_le_add_right h 1074))

/-- A product with a power of two in range adds no rounding. -/
theorem approximates_mul_twoPow {rounds units k : ℕ} {onGrid : Representable units} {exact : ℚ}
    (h : k < 1024) (near : Near rounds (magnitude units) exact) :
    (Binary64.mul (.finite false units onGrid) (ofNat (twoPow k))).Approximates rounds
      (exact * 2 ^ k) := by
  have moved := gridStep_dvd_mul_twoPow onGrid.2 k
  rw [ofNat_twoPow_of_lt h, mul_finite, ← Nat.mul_assoc, roundRatio_mul_right unitsPerOne_pos moved]
  refine approximates_roundRatio_one moved ?_
  rw [magnitude_mul_twoPow]
  exact near.mul_right (by positivity)

theorem value_ofNat_twoPow {k : ℕ} (h : k < 1024) : (ofNat (twoPow k)).value = 2 ^ k := by
  rw [ofNat_twoPow_of_lt h, value_finite]
  exact magnitude_twoPow_mul k

/-- The number whose value is a power of two is that power. -/
theorem eq_ofNat_twoPow {a : Binary64} {k : ℕ} (ha : a.AtLeastOne) (finite : a.isFinite = true)
    (h : a.value = 2 ^ k) : a = ofNat (twoPow k) := by
  cases ha with
  | @finite units onGrid least =>
    have counted : units = twoPow k * unitsPerOne := by
      have same : magnitude units = magnitude (twoPow k * unitsPerOne) := by
        rw [magnitude_twoPow_mul]
        exact h
      exact Nat.le_antisymm (magnitude_le.1 same.le) (magnitude_le.1 same.ge)
    have inRange : k < 1024 := lt_of_twoPow_mul_unitsPerOne_lt (counted ▸ onGrid.1)
    rw [ofNat_twoPow_of_lt inRange]
    exact finite_congr counted
  | infinite => cases finite

end Binary64

end SteadyStore
