import Mathlib.Tactic.Ring
import SteadyStore.Proofs.Duration.Words
import SteadyStore.Proofs.Number.Accuracy
/-!
# Spans and numbers of seconds

A span becomes a number of seconds in three rounded steps, so the number may be above the span. A
number of seconds below it stands for no longer span all the same (`ofSeconds?_of_lt`): half a
nanosecond past the span, no number on the grid is below the rounded one (`secondsUnits_le_of_le`).
-/

namespace SteadyStore.Duration

open Binary64

/-! ## Units of a span -/

/-- The magnitude of the whole seconds of a span. -/
def wholeUnits (d : Duration) : Nat := nearestUnits (d.seconds * unitsPerOne) 1

/-- The magnitude of the rest of a span. -/
def restUnits (d : Duration) : Nat := nearestUnits (d.subsecond * unitsPerOne) 1000000000

/-- The magnitude of a span in seconds. -/
def secondsUnits (d : Duration) : Nat := nearestUnits (d.wholeUnits + d.restUnits) 1

/-- A second holds `2 ^ 53` of the steps just below it. -/
theorem unitsPerOne_eq : unitsPerOne = 9007199254740992 * twoPow 1021 := by
  have fold : twoPow 53 = 9007199254740992 := rfl
  rw [← fold]
  exact twoPow_add 53 1021

theorem two_mul_unitsPerOne : 2 * unitsPerOne = twoPow 1075 := by
  have fold : twoPow 1 = 2 := rfl
  rw [← fold, unitsPerOne, ← twoPow_add]

/-- Below a second the steps of the grid are far shorter than a nanosecond. -/
theorem two_mul_restUnits_le (d : Duration) :
    2 * (d.restUnits * 1000000000) ≤ 2 * (d.subsecond * unitsPerOne) + 1000000000 * twoPow 1021 := by
  have unit : twoPow (53 + 1021) = unitsPerOne := rfl
  have fraction : d.subsecond * unitsPerOne / 1000000000 < twoPow (53 + 1021) := by
    rw [Nat.div_lt_iff_lt_mul (by decide), Nat.mul_comm, unit]
    exact (Nat.mul_lt_mul_left unitsPerOne_pos).2 d.subsecond_lt
  have step := Nat.le_of_dvd (twoPow_pos 1021) (gridStep_dvd_of_lt fraction)
  have near := two_mul_nearestUnits_le (d.subsecond * unitsPerOne) 1000000000
  rw [restUnits]
  omega

theorem restUnits_lt (d : Duration) : d.restUnits < unitsPerOne := by
  have unit := unitsPerOne_eq
  have near := d.two_mul_restUnits_le
  have below : d.subsecond * unitsPerOne ≤ 999999999 * unitsPerOne :=
    Nat.mul_le_mul_right _ (Nat.le_of_lt_succ d.subsecond_lt)
  have := twoPow_pos 1021
  omega

/-- Half a nanosecond past a span no number on the grid is below the magnitude of the span. -/
theorem secondsUnits_le_of_le (d : Duration) {x : Nat} (hx : gridStep x ∣ x)
    (h : (2 * d.nanos + 1) * unitsPerOne ≤ 2 * (x * 1000000000)) : d.secondsUnits ≤ x := by
  have unit := unitsPerOne_eq
  have rest := d.two_mul_restUnits_le
  have parts : (2 * d.nanos + 1) * unitsPerOne =
      2 * (d.seconds * unitsPerOne * 1000000000) + 2 * (d.subsecond * unitsPerOne) +
        unitsPerOne := by
    rw [d.nanos_eq]
    ring
  rcases Nat.lt_or_ge d.seconds (twoPow 53) with small | large
  · -- The whole seconds are exact, and the rest is off by far less than half a nanosecond.
    have onGrid : gridStep (d.seconds * unitsPerOne) ∣ d.seconds * unitsPerOne :=
      gridStep_dvd_mul (Nat.le_of_lt small)
    have whole := nearestUnits_of_dvd Nat.one_pos onGrid
    rw [Nat.mul_one] at whole
    refine nearestUnits_le_of_le Nat.one_pos hx ?_
    rw [wholeUnits, whole]
    omega
  · -- The rest is less than half a step of the whole seconds, and is rounded away.
    have twice := two_mul_unitsPerOne
    have least : twoPow (52 + 1075) ≤ d.wholeUnits := by
      refine le_nearestUnits_of_le Nat.one_pos (representable_twoPow (by decide)).2 ?_
      rw [Nat.mul_one, show 52 + 1075 = 53 + 1074 from rfl, twoPow_add]
      exact Nat.mul_le_mul_right _ large
    have step := Nat.le_of_dvd (gridStep_pos _) (twoPow_dvd_gridStep_of_le least)
    have below := d.restUnits_lt
    have onGrid : gridStep d.wholeUnits ∣ d.wholeUnits := nearestUnits_dvd _ 1
    rw [secondsUnits, nearestUnits_add_of_lt onGrid (by omega)]
    refine nearestUnits_le_of_le Nat.one_pos hx ?_
    omega

theorem size_mul_unitsPerOne : UInt64.size * unitsPerOne = twoPow 1138 := by
  have fold : twoPow 64 = UInt64.size := rfl
  rw [← fold, unitsPerOne, ← twoPow_add]

/-- No span is longer than `2 ^ 64` seconds, also when it is rounded. -/
theorem secondsUnits_le_size (d : Duration) : d.secondsUnits ≤ UInt64.size * unitsPerOne := by
  have bound : 2 * d.nanos + 1 ≤ 2 * (UInt64.size * 1000000000) := by
    have := d.inRange
    simp only [longestNanos, UInt64.size] at *
    omega
  refine d.secondsUnits_le_of_le ?_ ?_
  · rw [size_mul_unitsPerOne]
    exact (representable_twoPow (by decide)).2
  · calc (2 * d.nanos + 1) * unitsPerOne
        ≤ 2 * (UInt64.size * 1000000000) * unitsPerOne := Nat.mul_le_mul_right _ bound
      _ = 2 * (UInt64.size * unitsPerOne * 1000000000) := by ring

theorem wholeUnits_le_size (d : Duration) : d.wholeUnits ≤ UInt64.size * unitsPerOne := by
  refine nearestUnits_le_of_le Nat.one_pos ?_ ?_
  · rw [size_mul_unitsPerOne]
    exact (representable_twoPow (by decide)).2
  · rw [Nat.mul_one]
    exact Nat.mul_le_mul_right _ (Nat.le_of_lt d.seconds_lt)

/-- The magnitudes of spans are far from the end of the range. -/
theorem lt_unitsLimit {x : Nat} (h : x ≤ UInt64.size * unitsPerOne) : x < unitsLimit := by
  rw [size_mul_unitsPerOne] at h
  rw [unitsLimit]
  exact Nat.lt_of_le_of_lt h (twoPow_lt (by decide))

/-! ## The number of seconds -/

theorem inSeconds_eq (d : Duration) :
    ∃ onGrid, d.inSeconds = .finite false d.secondsUnits onGrid := by
  have rest : d.restUnits ≤ UInt64.size * unitsPerOne :=
    Nat.le_trans (Nat.le_of_lt d.restUnits_lt) (Nat.le_mul_of_pos_left _ (by decide))
  have wholeOnGrid : Representable d.wholeUnits :=
    representable_nearestUnits (lt_unitsLimit d.wholeUnits_le_size)
  have restOnGrid : Representable d.restUnits := representable_nearestUnits (lt_unitsLimit rest)
  have onGrid : Representable d.secondsUnits :=
    representable_nearestUnits (lt_unitsLimit d.secondsUnits_le_size)
  refine ⟨onGrid, ?_⟩
  calc d.inSeconds
      = Binary64.add (.finite false d.wholeUnits wholeOnGrid) (.finite false d.restUnits restOnGrid) :=
        congrArg₂ Binary64.add (roundRatio_eq rfl wholeOnGrid) (roundRatio_eq rfl restOnGrid)
    _ = .finite false d.secondsUnits onGrid := by
        rw [add_finite]
        exact roundRatio_eq rfl onGrid

theorem ofSeconds?_finite {x nanos : Nat} {hx : Representable x}
    (rounded : nearestEven (x * 1000000000) unitsPerOne = nanos) (fits : nanos ≤ longestNanos) :
    ofSeconds? (.finite false x hx) = some ⟨nanos, fits⟩ := by
  subst rounded
  simp only [ofSeconds?, Bool.false_eq_true, false_and, if_false, dif_pos fits]

/-- A number of seconds that is below a span as the span is rounded stands for a span that is not
longer. -/
theorem ofSeconds?_of_lt {d : Duration} {x : Nat} {hx : Representable x}
    (h : lt (.finite false x hx) d.inSeconds = true) :
    ∃ span, ofSeconds? (.finite false x hx) = some span ∧ span ≤ d ∧
      span.nanos = nearestEven (x * 1000000000) unitsPerOne := by
  obtain ⟨onGrid, seconds⟩ := d.inSeconds_eq
  rw [seconds, lt_finite] at h
  obtain ⟨nanos, rounded⟩ : ∃ nanos, nearestEven (x * 1000000000) unitsPerOne = nanos := ⟨_, rfl⟩
  have short : nanos ≤ d.nanos := by
    rw [← rounded]
    refine nearestEven_le_of_lt ?_
    by_contra past
    exact Nat.not_le.2 h (d.secondsUnits_le_of_le hx.2 (Nat.not_lt.1 past))
  have fits := Nat.le_trans short d.inRange
  exact ⟨⟨nanos, fits⟩, ofSeconds?_finite rounded fits, short, rounded.symm⟩

/-- The longest span itself is rounded up, out of range. -/
example : ofSeconds? longest.inSeconds = none := by decide +kernel

/-! ## How exact the seconds are -/

/-- A part of a span is one rounding away from its seconds. -/
theorem near_nearestUnits_part (part : Nat) {den : Nat} (short : twoPow 52 * den ≤ unitsPerOne) (hd : 0 < den) :
    Near 1 (nearestUnits (part * unitsPerOne) den : ℚ) ((part * unitsPerOne : ℕ) / den) := by
  rcases Nat.eq_zero_or_pos part with rfl | positive
  · have none : nearestUnits (0 * unitsPerOne) den = 0 :=
      Nat.le_zero.1 (nearestUnits_le_of_le hd (Nat.dvd_zero _) (by rw [Nat.zero_mul, Nat.zero_mul]))
    rw [none, Nat.zero_mul, Nat.cast_zero, zero_div]
    exact (Near.refl 0).mono (Nat.zero_le 1) le_rfl le_rfl
  · exact near_nearestUnits hd (Nat.le_trans short (Nat.le_mul_of_pos_left _ positive))

/-- A part that is not nothing has all its binary digits. -/
theorem twoPow_le_nearestUnits_part {part den : Nat} (short : twoPow 52 * den ≤ unitsPerOne) (hd : 0 < den)
    (positive : 0 < part) : twoPow 52 ≤ nearestUnits (part * unitsPerOne) den :=
  le_nearestUnits_of_le hd (representable_twoPow (by decide)).2
    (Nat.le_trans short (Nat.le_mul_of_pos_left _ positive))

theorem twoPow_mul_billion_le : twoPow 52 * 1000000000 ≤ unitsPerOne :=
  calc twoPow 52 * 1000000000
      ≤ twoPow 52 * twoPow 30 := Nat.mul_le_mul_left _ (by decide)
    _ = twoPow (52 + 30) := (twoPow_add 52 30).symm
    _ ≤ unitsPerOne := twoPow_le (by decide)

theorem twoPow_mul_one_le : twoPow 52 * 1 ≤ unitsPerOne := by
  rw [Nat.mul_one]
  exact twoPow_le (by decide)

/-- The parts of a span that is not nothing have all their binary digits together. -/
theorem twoPow_le_parts {d : Duration} (positive : 0 < d.nanos) :
    twoPow 52 ≤ d.wholeUnits + d.restUnits := by
  rcases Nat.eq_zero_or_pos d.seconds with none | some
  · have rest : 0 < d.subsecond := by
      have := d.nanos_eq
      omega
    exact Nat.le_add_left_of_le
      (twoPow_le_nearestUnits_part twoPow_mul_billion_le (by decide) rest)
  · exact Nat.le_add_right_of_le
      (twoPow_le_nearestUnits_part twoPow_mul_one_le Nat.one_pos some)

theorem twoPow_le_secondsUnits {d : Duration} (positive : 0 < d.nanos) :
    twoPow 52 ≤ d.secondsUnits :=
  le_nearestUnits_of_le Nat.one_pos (representable_twoPow (by decide)).2
    (by rw [Nat.mul_one]; exact twoPow_le_parts positive)

/-- The parts of a span are one rounding away from its nanoseconds. -/
theorem near_parts (d : Duration) :
    Near 1 ((d.wholeUnits + d.restUnits : ℕ) : ℚ) (d.nanos / 1000000000 * unitsPerOne) := by
  have whole := near_nearestUnits_part d.seconds twoPow_mul_one_le Nat.one_pos
  have rest := near_nearestUnits_part d.subsecond twoPow_mul_billion_le (by decide)
  have sum := whole.add rest
  rw [d.nanos_eq]
  push_cast at sum ⊢
  rwa [show (d.seconds * unitsPerOne / 1 + d.subsecond * unitsPerOne / 1000000000 : ℚ) =
    (d.seconds * 1000000000 + d.subsecond) / 1000000000 * unitsPerOne by ring] at sum

/-- The seconds of a span are two roundings away: one in each part, and one in the sum. -/
theorem near_secondsUnits {d : Duration} (positive : 0 < d.nanos) :
    Near 2 (magnitude d.secondsUnits) (d.nanos / 1000000000) := by
  have total : Near 1 (d.secondsUnits : ℚ) ((d.wholeUnits + d.restUnits : ℕ) / (1 : ℕ)) :=
    near_nearestUnits Nat.one_pos (by rw [Nat.mul_one]; exact twoPow_le_parts positive)
  rw [Nat.cast_one, div_one] at total
  have seconds := near_magnitude (total.trans d.near_parts)
  rwa [mul_div_cancel_right₀ _ unitsPerOne_cast_pos.ne'] at seconds

end SteadyStore.Duration
