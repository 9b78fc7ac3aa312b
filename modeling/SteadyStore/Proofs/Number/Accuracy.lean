import Mathlib.Algebra.Order.Field.Rat
import Mathlib.Algebra.Order.Ring.Pow
import Mathlib.Tactic.FieldSimp
import Mathlib.Tactic.Linarith
import Mathlib.Tactic.Positivity
import Mathlib.Tactic.Ring
import SteadyStore.Proofs.Number.Squaring
/-!
# How far roundings go

A rounding moves a magnitude by a factor of `1 + 2 ^ (-53)` at most, up or down
(`near_nearestUnits`). Two numbers that are some roundings apart are `Near`, and products and powers
add up the roundings of their parts (`Approximates.mul`, `Approximates.pow`). A number that leaves the
range stands for an exact one that is out of range up to those roundings.
-/

namespace SteadyStore

/-! ## Numbers some roundings apart -/

/-- The factor by which a rounding may change a number. -/
def roundoff : ℚ := 1 + 1 / 2 ^ 53

theorem one_le_roundoff : 1 ≤ roundoff := by
  norm_num [roundoff]

theorem roundoff_pow_pos (rounds : ℕ) : 0 < roundoff ^ rounds :=
  pow_pos (lt_of_lt_of_le one_pos one_le_roundoff) rounds

/-- The first number is at most what so many roundings may make of the second one. -/
def AtMost (rounds : ℕ) (x y : ℚ) : Prop := x ≤ y * roundoff ^ rounds

namespace AtMost

variable {m n : ℕ} {x y z a b : ℚ}

theorem of_le (h : x ≤ y) : AtMost 0 x y := by
  rwa [AtMost, pow_zero, mul_one]

theorem trans (hxy : AtMost m x y) (hyz : AtMost n y z) : AtMost (m + n) x z :=
  calc x ≤ y * roundoff ^ m := hxy
    _ ≤ z * roundoff ^ n * roundoff ^ m := mul_le_mul_of_nonneg_right hyz (roundoff_pow_pos m).le
    _ = z * roundoff ^ (m + n) := by rw [pow_add]; ring

theorem mono (h : AtMost m x y) (hmn : m ≤ n) (hy : 0 ≤ y) : AtMost n x y :=
  le_trans h (mul_le_mul_of_nonneg_left (pow_le_pow_right₀ one_le_roundoff hmn) hy)

theorem pos (h : AtMost n x y) (hx : 0 < x) : 0 < y :=
  (mul_pos_iff_of_pos_right (roundoff_pow_pos n)).1 (lt_of_lt_of_le hx h)

theorem nonneg (h : AtMost n x y) (hx : 0 ≤ x) : 0 ≤ y :=
  (mul_nonneg_iff_of_pos_right (roundoff_pow_pos n)).1 (le_trans hx h)

theorem add (hxa : AtMost n x a) (hyb : AtMost n y b) : AtMost n (x + y) (a + b) := by
  rw [AtMost, add_mul]
  exact add_le_add hxa hyb

theorem mul (hxa : AtMost m x a) (hyb : AtMost n y b) (hy : 0 ≤ y) (ha : 0 ≤ a) :
    AtMost (m + n) (x * y) (a * b) :=
  calc x * y ≤ a * roundoff ^ m * (b * roundoff ^ n) :=
        mul_le_mul hxa hyb hy (mul_nonneg ha (roundoff_pow_pos m).le)
    _ = a * b * roundoff ^ (m + n) := by rw [pow_add]; ring

theorem min (hxy : AtMost n x y) (hxz : AtMost n x z) : AtMost n x (min y z) := by
  rcases min_choice y z with left | right
  · rwa [left]
  · rwa [right]

theorem mul_right (h : AtMost n x y) (ha : 0 ≤ a) : AtMost n (x * a) (y * a) := by
  rw [AtMost, mul_right_comm]
  exact mul_le_mul_of_nonneg_right h ha

end AtMost

/-- Two numbers that are at most so many roundings apart. -/
structure Near (rounds : ℕ) (x y : ℚ) : Prop where
  le : AtMost rounds x y
  ge : AtMost rounds y x

namespace Near

variable {m n : ℕ} {x y z a b : ℚ}

theorem refl (x : ℚ) : Near 0 x x := ⟨.of_le le_rfl, .of_le le_rfl⟩

theorem trans (hxy : Near m x y) (hyz : Near n y z) : Near (m + n) x z :=
  ⟨hxy.le.trans hyz.le, Nat.add_comm m n ▸ hyz.ge.trans hxy.ge⟩

theorem mono (h : Near m x y) (hmn : m ≤ n) (hx : 0 ≤ x) (hy : 0 ≤ y) : Near n x y :=
  ⟨h.le.mono hmn hy, h.ge.mono hmn hx⟩

theorem add (hxa : Near n x a) (hyb : Near n y b) : Near n (x + y) (a + b) :=
  ⟨hxa.le.add hyb.le, hxa.ge.add hyb.ge⟩

theorem mul (hxa : Near m x a) (hyb : Near n y b) (hx : 0 ≤ x) (hy : 0 ≤ y) (ha : 0 ≤ a)
    (hb : 0 ≤ b) : Near (m + n) (x * y) (a * b) :=
  ⟨hxa.le.mul hyb.le hy ha, hxa.ge.mul hyb.ge hb hx⟩

theorem mul_right (h : Near n x y) (ha : 0 ≤ a) : Near n (x * a) (y * a) :=
  ⟨h.le.mul_right ha, h.ge.mul_right ha⟩

end Near

/-- Two to the 32 roundings change a number by less than a part in `2 ^ 20`. -/
theorem roundoff_pow_le {rounds : ℕ} (h : rounds ≤ UInt32.size) :
    roundoff ^ rounds ≤ 1 + 1 / 2 ^ 20 := by
  have few : (rounds : ℚ) ≤ 2 ^ 32 := by exact_mod_cast h
  have below : 1 + rounds * (-(1 / 2 ^ 53) : ℚ) ≤ (1 + -(1 / 2 ^ 53)) ^ rounds :=
    one_add_mul_le_pow (by norm_num) rounds
  -- Going up and going down by the same part leaves less than there was.
  have less : roundoff ^ rounds * (1 + -(1 / 2 ^ 53)) ^ rounds ≤ 1 := by
    rw [← mul_pow]
    exact pow_le_one₀ (by norm_num [roundoff]) (by norm_num [roundoff])
  have part : roundoff ^ rounds * (1 - 1 / 2 ^ 21) ≤ 1 := by
    refine le_trans (mul_le_mul_of_nonneg_left ?_ (roundoff_pow_pos rounds).le) less
    linarith
  linarith

/-- So many roundings are less than a doubling. -/
theorem AtMost.le_two_mul {rounds : ℕ} {x y : ℚ} (h : AtMost rounds x y)
    (few : rounds ≤ UInt32.size) (hy : 0 ≤ y) : x ≤ 2 * y := by
  have growth := mul_le_mul_of_nonneg_left (roundoff_pow_le few) hy
  rw [AtMost] at h
  linarith

theorem Near.abs_sub_le {rounds : ℕ} {x y : ℚ} (h : Near rounds x y)
    (few : rounds ≤ UInt32.size) (hy : 0 ≤ y) : |x - y| ≤ y / 2 ^ 20 := by
  have factor := roundoff_pow_le few
  have hx : 0 ≤ x := h.ge.nonneg hy
  have up : x ≤ y * (1 + 1 / 2 ^ 20) := le_trans h.le (mul_le_mul_of_nonneg_left factor hy)
  have down : y ≤ x * (1 + 1 / 2 ^ 20) := le_trans h.ge (mul_le_mul_of_nonneg_left factor hx)
  rw [abs_le]
  constructor <;> linarith

/-! ## Magnitudes -/

/-- The value of a magnitude. -/
def magnitude (units : ℕ) : ℚ := units / unitsPerOne

/-- Values from here on are out of range. -/
def rangeEnd : ℚ := magnitude unitsLimit

theorem unitsPerOne_cast_pos : 0 < (unitsPerOne : ℚ) := by
  exact_mod_cast Binary64.unitsPerOne_pos

theorem magnitude_nonneg (units : ℕ) : 0 ≤ magnitude units :=
  div_nonneg units.cast_nonneg unitsPerOne_cast_pos.le

theorem magnitude_le {x y : ℕ} : magnitude x ≤ magnitude y ↔ x ≤ y := by
  rw [magnitude, magnitude, div_le_div_iff_of_pos_right unitsPerOne_cast_pos, Nat.cast_le]

theorem magnitude_unitsPerOne : magnitude unitsPerOne = 1 :=
  div_self unitsPerOne_cast_pos.ne'

theorem rangeEnd_pos : 0 < rangeEnd :=
  div_pos (by exact_mod_cast unitsLimit_pos) unitsPerOne_cast_pos

/-- Two magnitudes are as far apart as their counts of units. -/
theorem near_magnitude {rounds x : ℕ} {units : ℚ} (h : Near rounds x units) :
    Near rounds (magnitude x) (units / unitsPerOne) := by
  rw [magnitude, div_eq_mul_inv, div_eq_mul_inv]
  exact h.mul_right (inv_nonneg.2 unitsPerOne_cast_pos.le)

/-- Rounding goes down by half a step at most. -/
theorem le_two_mul_nearestUnits (num : ℕ) {den : ℕ} (hd : 0 < den) :
    2 * num ≤ 2 * (nearestUnits num den * den) + den * gridStep (num / den) := by
  have near := le_two_mul_nearestEven num (Nat.mul_pos hd (gridStep_pos (num / den)))
  unfold nearestUnits
  dsimp only
  rwa [Nat.mul_assoc (nearestEven _ _), Nat.mul_comm (gridStep _) den]

/-- Magnitudes of at least 53 binary digits hold their step at least `2 ^ 52` times. -/
theorem twoPow_mul_gridStep_le_of_le {x : ℕ} (h : twoPow 52 ≤ x) : twoPow 52 * gridStep x ≤ x := by
  by_cases unit : gridStep x = 1
  · rwa [unit, Nat.mul_one]
  · exact twoPow_mul_gridStep_le unit

/-- What a magnitude with all its binary digits is rounded to is one rounding away. -/
theorem near_nearestUnits {num den : ℕ} (hd : 0 < den) (h : twoPow 52 * den ≤ num) :
    Near 1 (nearestUnits num den : ℚ) (num / den) := by
  obtain ⟨step, hstep⟩ : ∃ step, gridStep (num / den) = step := ⟨_, rfl⟩
  have unit : twoPow 52 = 4503599627370496 := rfl
  have digits : twoPow 52 * step ≤ num / den :=
    hstep ▸ twoPow_mul_gridStep_le_of_le ((Nat.le_div_iff_mul_le hd).2 h)
  have after : twoPow 52 * step ≤ nearestUnits num den :=
    le_nearestUnits_of_le hd (hstep ▸ gridStep_dvd_mul (twoPow_le (by decide)))
      ((Nat.le_div_iff_mul_le hd).1 digits)
  obtain ⟨units, hunits⟩ : ∃ units, nearestUnits num den = units := ⟨_, rfl⟩
  have up := two_mul_nearestUnits_le num den
  have down := le_two_mul_nearestUnits num hd
  rw [hstep, hunits] at up down
  rw [hunits] at after ⊢
  -- Half a step is a part in `2 ^ 53` of either magnitude.
  have partOfExact : 4503599627370496 * (den * step) ≤ num := by
    have := (Nat.le_div_iff_mul_le hd).1 digits
    rwa [unit, Nat.mul_assoc, Nat.mul_comm step] at this
  have partOfRounded : 4503599627370496 * (den * step) ≤ units * den := by
    have := Nat.mul_le_mul_right den after
    rwa [unit, Nat.mul_assoc, Nat.mul_comm step] at this
  have upper : 9007199254740992 * (units * den) ≤ 9007199254740993 * num := by omega
  have lower : 9007199254740992 * num ≤ 9007199254740993 * (units * den) := by omega
  have hden : (0 : ℚ) < den := by exact_mod_cast hd
  have factor : roundoff ^ 1 = 9007199254740993 / 9007199254740992 := by norm_num [roundoff]
  constructor
  · have : (9007199254740992 * (units * den) : ℚ) ≤ 9007199254740993 * num := by
      exact_mod_cast upper
    rw [AtMost, factor, div_mul_eq_mul_div, le_div_iff₀ hden]
    linarith
  · have : (9007199254740992 * num : ℚ) ≤ 9007199254740993 * (units * den) := by
      exact_mod_cast lower
    rw [AtMost, factor, div_le_iff₀ hden]
    linarith

namespace Binary64

/-- The value of a finite number. -/
def value : Binary64 → ℚ
  | .finite negative units _ => if negative then -magnitude units else magnitude units
  | _ => 0

theorem value_finite {units : ℕ} {onGrid : Representable units} :
    value (.finite false units onGrid) = magnitude units := rfl

/-! ## Numbers that went through roundings -/

/-- The number is the exact one up to so many roundings, and not negative. If it is infinite, then the
exact one is out of range up to so many roundings. -/
inductive Approximates (rounds : ℕ) (exact : ℚ) : Binary64 → Prop
  | finite {units : ℕ} {onGrid : Representable units} (near : Near rounds (magnitude units) exact) :
    Approximates rounds exact (.finite false units onGrid)
  | infinite (beyond : AtMost rounds rangeEnd exact) : Approximates rounds exact (.infinite false)

/-- One more rounding. -/
theorem approximates_roundRatio {rounds num den : ℕ} {exact : ℚ} (hd : 0 < den)
    (h : twoPow 52 * den ≤ num) (near : Near rounds ((num / den : ℚ) / unitsPerOne) exact) :
    (roundRatio false num den).Approximates (rounds + 1) exact := by
  have rounded : Near (rounds + 1) (magnitude (nearestUnits num den)) exact :=
    Nat.add_comm 1 rounds ▸ (near_magnitude (near_nearestUnits hd h)).trans near
  rcases Nat.lt_or_ge (nearestUnits num den) unitsLimit with inRange | beyond
  · rw [roundRatio_eq rfl (representable_nearestUnits inRange)]
    exact .finite rounded
  · rw [roundRatio_of_le beyond]
    exact .infinite (le_trans (magnitude_le.2 beyond) rounded.le)

theorem approximates_one : one.Approximates 0 1 := by
  rw [one_eq]
  exact .finite (magnitude_unitsPerOne ▸ Near.refl _)

section Product
variable {a b : Binary64} {m n : ℕ} {x y : ℚ}

theorem AtLeastOne.eq_infinite (ha : a.AtLeastOne) (beyond : a.isFinite = false) :
    a = .infinite false := by
  cases ha with
  | finite _ => cases beyond
  | infinite => rfl

/-- What stands for a number from one on is, up to its roundings, not less than one. -/
theorem Approximates.one_atMost (h : a.Approximates n x) (ha : a.AtLeastOne) : AtMost n 1 x := by
  rw [← magnitude_unitsPerOne]
  cases h with
  | finite near =>
    cases ha with
    | finite least => exact le_trans (magnitude_le.2 least) near.le
  | infinite beyond => exact le_trans (magnitude_le.2 (twoPow_le (by decide))) beyond

/-- Up to the roundings of both, a product with a number that is out of range is out of range. -/
theorem atMost_rangeEnd_mul (beyond : AtMost m rangeEnd x) (least : AtMost n 1 y) :
    AtMost (m + n + 1) rangeEnd (x * y) := by
  have hx : 0 < x := beyond.pos rangeEnd_pos
  have hy : 0 < y := least.pos one_pos
  have product := beyond.mul least one_pos.le hx.le
  rw [mul_one] at product
  exact product.mono (Nat.le_succ _) (mul_pos hx hy).le

/-- The roundings of a product are those of its factors and one more. -/
theorem Approximates.mul (hax : a.Approximates m x) (hby : b.Approximates n y)
    (ha : a.AtLeastOne) (hb : b.AtLeastOne) : (a.mul b).Approximates (m + n + 1) (x * y) := by
  have leastX := hax.one_atMost ha
  have leastY := hby.one_atMost hb
  cases hax with
  | @finite p _ nearX =>
    cases hby with
    | @finite q _ nearY =>
      cases ha with | finite hp =>
      cases hb with | finite hq =>
      refine approximates_roundRatio unitsPerOne_pos ?_ ?_
      · exact Nat.mul_le_mul (Nat.le_trans (twoPow_le (by decide)) hp) hq
      · have product := nearX.mul nearY (magnitude_nonneg p) (magnitude_nonneg q)
          (leastX.pos one_pos).le (leastY.pos one_pos).le
        rwa [magnitude, magnitude, div_mul_div_comm, ← div_div, ← Nat.cast_mul] at product
    | infinite beyond =>
      rw [ha.mul_infinite, mul_comm x, Nat.add_comm m]
      exact .infinite (atMost_rangeEnd_mul beyond leastX)
  | infinite beyond =>
    rw [hb.infinite_mul]
    exact .infinite (atMost_rangeEnd_mul beyond leastY)

/-- Each turn of the loop doubles the roundings of the square and adds one. -/
theorem Approximates.powLoop {product square : Binary64} {p s : ℚ}
    (hp : product.Approximates m p) (hs : square.Approximates n s) (leastP : product.AtLeastOne)
    (leastS : square.AtLeastOne) (exponent : ℕ) :
    (powLoop product square exponent).Approximates (m + exponent * (n + 1)) (p * s ^ exponent) := by
  induction exponent using Nat.evenOddRec generalizing product square m n p s with
  | h0 =>
    rw [powLoop_zero, Nat.zero_mul, Nat.add_zero, pow_zero, mul_one]
    exact hp
  | h_even k ih =>
    rw [powLoop_even]
    have rest := ih hp (hs.mul hs leastS leastS) leastP (leastS.mul leastS)
    rwa [← pow_two, ← pow_mul, show m + k * (n + n + 1 + 1) = m + 2 * k * (n + 1) by ring] at rest
  | h_odd k ih =>
    rw [powLoop_odd]
    have rest := ih (hp.mul hs leastP leastS) (hs.mul hs leastS leastS) (leastP.mul leastS)
      (leastS.mul leastS)
    rwa [← pow_two, ← pow_mul, mul_assoc, ← pow_succ',
      show m + n + 1 + k * (n + n + 1 + 1) = m + (2 * k + 1) * (n + 1) by ring] at rest

/-- A power goes through one rounding for each factor at most. -/
theorem approximates_pow (ha : a.AtLeastOne) (finite : a.isFinite = true) (exponent : ℕ) :
    (a.pow exponent).Approximates exponent (a.value ^ exponent) := by
  have exact : a.Approximates 0 a.value := by
    cases ha with
    | finite _ => exact .finite (Near.refl _)
    | infinite => cases finite
  have loop := approximates_one.powLoop exact atLeastOne_one ha exponent
  rwa [one_mul, Nat.zero_add, Nat.zero_add, Nat.mul_one] at loop

end Product

end Binary64

end SteadyStore
