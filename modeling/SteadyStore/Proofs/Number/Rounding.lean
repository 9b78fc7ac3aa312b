import Mathlib.Tactic.ByContra
import SteadyStore.Number.Binary64
/-!
# Rounding to the grid

Rounding takes a magnitude on the grid to itself (`nearestUnits_of_dvd`) and keeps the order
(`nearestUnits_mono`), so it never passes a magnitude on the grid (`nearestUnits_le_of_le`,
`le_nearestUnits_of_le`). It goes half a step at most (`two_mul_nearestUnits_le`).
-/

namespace SteadyStore

/-! ## Whole numbers -/

theorem nearestEven_cases (num den : Nat) :
    nearestEven num den = num / den ∧ 2 * (num % den) ≤ den ∨
      nearestEven num den = num / den + 1 ∧ den ≤ 2 * (num % den) := by
  unfold nearestEven
  dsimp only
  split
  · omega
  · split <;> omega

/-- Rounding goes up by half the distance of whole numbers at most. -/
theorem two_mul_nearestEven_le (num den : Nat) :
    2 * (nearestEven num den * den) ≤ 2 * num + den := by
  have parts := Nat.div_add_mod' num den
  rcases nearestEven_cases num den with ⟨same, -⟩ | ⟨next, far⟩
  · rw [same]
    omega
  · rw [next, Nat.add_one_mul (num / den)]
    omega

/-- And it goes down by half of it at most. -/
theorem le_two_mul_nearestEven (num : Nat) {den : Nat} (hd : 0 < den) :
    2 * num ≤ 2 * (nearestEven num den * den) + den := by
  have parts := Nat.div_add_mod' num den
  have rest := Nat.mod_lt num hd
  rcases nearestEven_cases num den with ⟨same, near⟩ | ⟨next, -⟩
  · rw [same]
    omega
  · rw [next, Nat.add_one_mul (num / den)]
    omega

/-- What is less than half way past a whole number is not rounded past it. -/
theorem nearestEven_le_of_lt {num den k : Nat} (h : 2 * num < (2 * k + 1) * den) :
    nearestEven num den ≤ k := by
  have hd : 0 < den := Nat.pos_of_mul_pos_left (Nat.zero_lt_of_lt h)
  have near := two_mul_nearestEven_le num den
  by_contra past
  have : (k + 1) * den ≤ nearestEven num den * den := Nat.mul_le_mul_right den (by omega)
  rw [Nat.add_one_mul k] at this
  rw [Nat.add_one_mul (2 * k), Nat.mul_assoc] at h
  omega

theorem nearestEven_le_of_le {num den k : Nat} (hd : 0 < den) (h : num ≤ k * den) :
    nearestEven num den ≤ k := by
  refine nearestEven_le_of_lt ?_
  rw [Nat.add_one_mul (2 * k), Nat.mul_assoc]
  omega

theorem le_nearestEven_of_le {num den k : Nat} (hd : 0 < den) (h : k * den ≤ num) :
    k ≤ nearestEven num den :=
  Nat.le_trans ((Nat.le_div_iff_mul_le hd).2 h) (le_nearestEven num den)

theorem nearestEven_mono {num num' : Nat} (den : Nat) (h : num ≤ num') :
    nearestEven num den ≤ nearestEven num' den := by
  rcases Nat.lt_or_ge (num / den) (num' / den) with less | notLess
  · calc nearestEven num den
        ≤ num / den + 1 := nearestEven_le num den
      _ ≤ num' / den := less
      _ ≤ nearestEven num' den := le_nearestEven num' den
  · -- Between the same whole numbers the rest decides.
    have same : num' / den = num / den := Nat.le_antisymm notLess (Nat.div_le_div_right h)
    have parts := Nat.div_add_mod' num den
    have parts' := Nat.div_add_mod' num' den
    rw [same] at parts'
    have rest : num % den ≤ num' % den := by omega
    unfold nearestEven
    dsimp only
    rw [same]
    split <;> split <;> (try split) <;> (try split) <;> omega

/-! ## Steps of the grid -/

theorem gridStep_dvd_gridStep {x y : Nat} (h : x ≤ y) : gridStep x ∣ gridStep y := by
  refine twoPow_dvd (Nat.sub_le_sub_right ?_ 52)
  rcases Nat.eq_zero_or_pos x with rfl | hx
  · simp
  · exact (Nat.le_log2 (by omega)).2 (Nat.le_trans (Nat.log2_self_le (by omega)) h)

/-- Where the step is longer than a unit, a magnitude holds it at least `2 ^ 52` times. -/
theorem twoPow_mul_gridStep_le {x : Nat} (h : gridStep x ≠ 1) : twoPow 52 * gridStep x ≤ x := by
  have long : 52 < x.log2 := by
    by_contra short
    exact h (by rw [gridStep, Nat.sub_eq_zero_of_le (by omega), twoPow_zero])
  have positive : x ≠ 0 := by
    rintro rfl
    simp at long
  rw [gridStep, ← twoPow_add, Nat.add_sub_cancel' (by omega)]
  exact Nat.log2_self_le positive

/-- Magnitudes below `2 ^ 53` steps have no longer step. -/
theorem gridStep_dvd_of_lt {x exponent : Nat} (h : x < twoPow (53 + exponent)) :
    gridStep x ∣ twoPow exponent := by
  refine twoPow_dvd ?_
  rcases Nat.eq_zero_or_pos x with rfl | hx
  · simp
  · have := (log2_lt_iff (by omega)).2 h
    omega

/-- Magnitudes from `2 ^ 52` steps on have no shorter step. -/
theorem twoPow_dvd_gridStep_of_le {x exponent : Nat} (h : twoPow (52 + exponent) ≤ x) :
    twoPow exponent ∣ gridStep x := by
  have positive : x ≠ 0 := Nat.ne_of_gt (Nat.lt_of_lt_of_le (twoPow_pos _) h)
  refine twoPow_dvd ?_
  have : 52 + exponent ≤ x.log2 := (Nat.le_log2 positive).2 h
  omega

/-! ## Magnitudes -/

/-- A magnitude on the grid is not passed from below. -/
theorem nearestUnits_le_of_le {num den y : Nat} (hd : 0 < den) (hy : gridStep y ∣ y)
    (h : num ≤ y * den) : nearestUnits num den ≤ y := by
  have finer : gridStep (num / den) ∣ gridStep y :=
    gridStep_dvd_gridStep (Nat.div_le_of_le_mul (by rwa [Nat.mul_comm]))
  obtain ⟨k, steps⟩ := Nat.dvd_trans finer hy
  rw [Nat.mul_comm] at steps
  calc nearestUnits num den
      = nearestEven num (den * gridStep (num / den)) * gridStep (num / den) := rfl
    _ ≤ k * gridStep (num / den) := by
        refine Nat.mul_le_mul_right _ (nearestEven_le_of_le (Nat.mul_pos hd (gridStep_pos _)) ?_)
        rw [Nat.mul_comm den, ← Nat.mul_assoc, ← steps]
        exact h
    _ = y := steps.symm

/-- A magnitude on the grid is not passed from above. -/
theorem le_nearestUnits_of_le {num den y : Nat} (hd : 0 < den) (hy : gridStep y ∣ y)
    (h : y * den ≤ num) : y ≤ nearestUnits num den := by
  have below : y ≤ num / den := (Nat.le_div_iff_mul_le hd).2 h
  have key : ∀ k, k * gridStep (num / den) * den ≤ num →
      k * gridStep (num / den) ≤ nearestUnits num den := fun k hk => by
    refine Nat.mul_le_mul_right _ (le_nearestEven_of_le (Nat.mul_pos hd (gridStep_pos _)) ?_)
    rwa [Nat.mul_comm den, ← Nat.mul_assoc]
  by_cases coarser : gridStep (num / den) ∣ y
  · obtain ⟨k, steps⟩ := coarser
    rw [Nat.mul_comm] at steps
    rw [steps] at h ⊢
    exact key k h
  · -- The step got longer on the way, so there is a power of two in between.
    have long : gridStep (num / den) ≠ 1 := fun one => coarser (one ▸ Nat.one_dvd y)
    have least := twoPow_mul_gridStep_le long
    have before : y ≤ twoPow 52 * gridStep (num / den) := by
      by_contra past
      refine coarser (Nat.dvd_trans (twoPow_dvd_gridStep_of_le ?_) hy)
      rw [twoPow_add]
      exact Nat.le_of_lt (Nat.not_le.1 past)
    exact Nat.le_trans before (key _ ((Nat.le_div_iff_mul_le hd).1 least))

/-- A magnitude on the grid is its own rounding. -/
theorem nearestUnits_of_dvd {den y : Nat} (hd : 0 < den) (hy : gridStep y ∣ y) :
    nearestUnits (y * den) den = y :=
  Nat.le_antisymm (nearestUnits_le_of_le hd hy (Nat.le_refl _))
    (le_nearestUnits_of_le hd hy (Nat.le_refl _))

theorem nearestUnits_mono {num num' den : Nat} (hd : 0 < den) (h : num ≤ num') :
    nearestUnits num den ≤ nearestUnits num' den := by
  have quotients : num / den ≤ num' / den := Nat.div_le_div_right h
  by_cases same : gridStep (num / den) = gridStep (num' / den)
  · unfold nearestUnits
    rw [same]
    exact Nat.mul_le_mul_right _ (nearestEven_mono _ h)
  · -- The step got longer on the way, so there is a power of two in between.
    have long : gridStep (num' / den) ≠ 1 := fun one => same <| by
      have := gridStep_dvd_gridStep quotients
      rw [one, Nat.dvd_one] at this
      rw [this, one]
    have least := twoPow_mul_gridStep_le long
    have onGrid : gridStep (twoPow 52 * gridStep (num' / den)) ∣
        twoPow 52 * gridStep (num' / den) := gridStep_dvd_mul (twoPow_le (by decide))
    have before : num / den < twoPow 52 * gridStep (num' / den) := by
      by_contra past
      refine same (Nat.dvd_antisymm (gridStep_dvd_gridStep quotients)
        (twoPow_dvd_gridStep_of_le ?_))
      rw [twoPow_add]
      exact Nat.not_lt.1 past
    calc nearestUnits num den
        ≤ twoPow 52 * gridStep (num' / den) :=
          nearestUnits_le_of_le hd onGrid (Nat.le_of_lt ((Nat.div_lt_iff_lt_mul hd).1 before))
      _ ≤ nearestUnits num' den :=
          le_nearestUnits_of_le hd onGrid ((Nat.le_div_iff_mul_le hd).1 least)

/-- Rounding goes up by half a step at most. -/
theorem two_mul_nearestUnits_le (num den : Nat) :
    2 * (nearestUnits num den * den) ≤ 2 * num + den * gridStep (num / den) := by
  have near := two_mul_nearestEven_le num (den * gridStep (num / den))
  unfold nearestUnits
  dsimp only
  rwa [Nat.mul_assoc (nearestEven _ _), Nat.mul_comm (gridStep _) den]

/-- The next magnitude on the grid is at least a step away. -/
theorem add_gridStep_le {x y : Nat} (hx : gridStep x ∣ x) (hy : gridStep y ∣ y) (h : x < y) :
    x + gridStep x ≤ y := by
  have steps : gridStep x ∣ y - x :=
    Nat.dvd_sub (Nat.dvd_trans (gridStep_dvd_gridStep (Nat.le_of_lt h)) hy) hx
  have := Nat.le_of_dvd (by omega) steps
  omega

/-- Less than half a step beside a magnitude on the grid is rounded away. -/
theorem nearestUnits_add_of_lt {y rest : Nat} (hy : gridStep y ∣ y) (h : 2 * rest < gridStep y) :
    nearestUnits (y + rest) 1 = y := by
  refine Nat.le_antisymm ?_ (le_nearestUnits_of_le (by decide) hy (by omega))
  have near := two_mul_nearestUnits_le (y + rest) 1
  rw [Nat.div_one, Nat.mul_one, Nat.one_mul] at near
  by_contra past
  have next := add_gridStep_le hy (nearestUnits_dvd (y + rest) 1) (Nat.not_le.1 past)
  -- Then the step got longer within the rest, but a power of two in between is a step away.
  have longer : gridStep y < gridStep (y + rest) := by omega
  have least : twoPow 52 * gridStep (y + rest) ≤ y + rest := by
    have := gridStep_pos y
    exact twoPow_mul_gridStep_le (by omega)
  have between : y < twoPow 52 * gridStep (y + rest) := by
    by_contra before
    have : gridStep (y + rest) ∣ gridStep y := twoPow_dvd_gridStep_of_le <| by
      rw [twoPow_add]
      exact Nat.not_lt.1 before
    have := Nat.le_of_dvd (gridStep_pos y) this
    omega
  have away : y + gridStep y ≤ twoPow 52 * gridStep (y + rest) :=
    add_gridStep_le hy (gridStep_dvd_mul (twoPow_le (by decide))) between
  omega

end SteadyStore
