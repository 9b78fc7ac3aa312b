import SteadyStore.Proofs.Retry.Accuracy
import SteadyStore.Samples
/-!
# Delays that double are exact

A growth that is a power of two does not round, so the seconds to wait are as near their time as those of
the first delay are near that delay (`secondsNear_of_twoPow`). Up to some twelve days that is less than
half a nanosecond, and the delay is the one of the formula (`nanos_delayAfter_of_secondsNear`).
-/

namespace SteadyStore.RetryPolicy

open Binary64

variable {policy : RetryPolicy} {attempt : UInt32}

/-! ## Whole numbers of nanoseconds -/

/-- Four roundings are not noticed in a whole number of nanoseconds up to `2 ^ 20` seconds. -/
theorem abs_sub_lt_of_near {waited : ℚ} {n : ℕ} (near : Near 4 waited n)
    (short : n ≤ twoPow 20 * 1000000000) : |waited - n| < 1 / 2 := by
  -- Four parts in `2 ^ 53` of that many seconds are less than 0.467 nanoseconds.
  have factor : roundoff ^ 4 ≤ 1 + 445 / 10 ^ 18 := by norm_num [roundoff]
  have bound : (n : ℚ) ≤ 1048576000000000 := by exact_mod_cast short
  have up : waited ≤ n * (1 + 445 / 10 ^ 18) :=
    le_trans near.le (mul_le_mul_of_nonneg_left factor n.cast_nonneg)
  have down : n ≤ waited * (1 + 445 / 10 ^ 18) :=
    le_trans near.ge (mul_le_mul_of_nonneg_left factor (near.ge.nonneg n.cast_nonneg))
  rw [abs_lt]
  constructor <;> linarith

theorem eq_of_abs_sub_lt_one {m n : ℕ} (h : |(m : ℚ) - n| < 1) : m = n := by
  have whole : |(m : ℤ) - n| < 1 := by exact_mod_cast h
  have := Int.abs_lt_one_iff.1 whole
  omega

/-- Where the seconds are two roundings away from a whole number of nanoseconds, the delay is that number
or the longest delay, to the nanosecond. -/
theorem nanos_delayAfter_of_secondsNear {n : ℕ} (positive : 0 < n)
    (waits : 0 < policy.config.maxDelay.nanos)
    (short : policy.config.maxDelay.nanos ≤ twoPow 20 * 1000000000)
    (h : policy.SecondsNear attempt 2 n) :
    (policy.delayAfter attempt).nanos = min n policy.config.maxDelay.nanos := by
  obtain ⟨waited, rounded, near⟩ := exists_near_delayAfter waits (by exact_mod_cast positive) h
  rw [← Nat.cast_min] at near
  have close := abs_sub_lt_of_near near (Nat.le_trans (Nat.min_le_right _ _) short)
  refine eq_of_abs_sub_lt_one ?_
  calc |((policy.delayAfter attempt).nanos : ℚ) - (min n policy.config.maxDelay.nanos : ℕ)|
      ≤ |((policy.delayAfter attempt).nanos : ℚ) - waited| +
          |waited - (min n policy.config.maxDelay.nanos : ℕ)| := abs_sub_le _ _ _
    _ < 1 := by linarith

/-! ## Growth by powers of two -/

/-- With a growth that is a power of two the product adds no rounding. The exponent may stop growing
where the power has left the range. -/
theorem secondsNear_of_twoPow {stopped exponent : ℕ} (waits : 0 < policy.config.initialDelay.nanos)
    (power : policy.growth attempt = ofNat (twoPow stopped)) (le : stopped ≤ exponent)
    (inTime : stopped < 1024 → stopped = exponent) :
    policy.SecondsNear attempt 2 (policy.config.initialDelay.nanos * 2 ^ exponent) := by
  rcases Nat.lt_or_ge stopped 1024 with inRange | beyond
  · obtain ⟨onGrid, product⟩ := policy.backoffSeconds_eq attempt
    refine secondsNear_of_approximates (by decide) (by positivity) ?_
    rw [product, power, ← inTime inRange, mul_div_right_comm]
    exact approximates_mul_twoPow inRange (Duration.near_secondsUnits waits)
  · exact secondsNear_of_infinite waits (Nat.zero_le _) (power.trans (ofNat_twoPow_of_le beyond))
      (.of_le (rangeEnd_le (Nat.le_trans beyond le)))

/-- The first delay is not multiplied. -/
theorem growth_one (policy : RetryPolicy) : policy.growth 1 = ofNat (twoPow 0) :=
  powLoop_zero _ _

theorem grownNanos_one (policy : RetryPolicy) :
    policy.grownNanos 1 = policy.config.initialDelay.nanos := by
  have exponent : (1 : UInt32).toNat - 1 = 0 := rfl
  rw [grownNanos, exponent, pow_zero, mul_one]

section Doubles
variable {k : ℕ} (doubles : policy.config.multiplier.value = 2 ^ k)
include doubles

theorem multiplier_eq : policy.config.multiplier = ofNat (twoPow k) :=
  eq_ofNat_twoPow (atLeastOne_of_not_le policy.valid.finite policy.valid.growing)
    policy.valid.finite doubles

theorem growth_of_twoPow :
    policy.growth attempt = ofNat (twoPow (k * min (attempt.toNat - 1) exponentLimit)) := by
  rw [growth, multiplier_eq doubles, pow_ofNat_twoPow]

/-- A multiplier that is a power of two is at least two. -/
theorem exponent_pos : 0 < k := by
  refine Nat.pos_of_ne_zero ?_
  rintro rfl
  have growing := policy.valid.growing
  rw [multiplier_eq doubles] at growing
  have same : (ofNat (twoPow 0)).le one = true := by decide +kernel
  rw [same] at growing
  cases growing

theorem secondsNear_of_doubles (waits : 0 < policy.config.initialDelay.nanos) :
    policy.SecondsNear attempt 2
      (policy.config.initialDelay.nanos * 2 ^ (k * (attempt.toNat - 1))) := by
  refine secondsNear_of_twoPow waits (growth_of_twoPow doubles)
    (Nat.mul_le_mul_left k (Nat.min_le_left _ _)) fun inRange => ?_
  have small : min (attempt.toNat - 1) exponentLimit < 1024 :=
    Nat.lt_of_le_of_lt (Nat.le_mul_of_pos_left _ (exponent_pos doubles)) inRange
  have limit : 1024 ≤ exponentLimit := by decide
  have notStopped : min (attempt.toNat - 1) exponentLimit = attempt.toNat - 1 := by omega
  rw [notStopped]

end Doubles

/-- The first delay, and any delay of a multiplier that is a power of two, is a whole number of
nanoseconds, and the seconds are two roundings away from it. -/
theorem exists_grownNanos_eq (waits : 0 < policy.config.initialDelay.nanos)
    (doubles : attempt = 1 ∨ ∃ k : ℕ, policy.config.multiplier.value = 2 ^ k) :
    ∃ n : ℕ, 0 < n ∧ policy.grownNanos attempt = n ∧ policy.SecondsNear attempt 2 n := by
  rcases doubles with rfl | ⟨k, doubles⟩
  · have near := secondsNear_of_twoPow waits policy.growth_one (Nat.le_refl 0) fun _ => rfl
    rw [pow_zero, mul_one] at near
    exact ⟨_, waits, policy.grownNanos_one, near⟩
  · refine ⟨policy.config.initialDelay.nanos * 2 ^ (k * (attempt.toNat - 1)), ?_, ?_, ?_⟩
    · exact Nat.mul_pos waits (Nat.two_pow_pos _)
    · rw [grownNanos, doubles, ← pow_mul]
      push_cast
      rfl
    · have near : policy.SecondsNear attempt 2 _ := secondsNear_of_doubles doubles waits
      exact_mod_cast near

/-- Delays up to `2 ^ 20` seconds are what the formula says, to the nanosecond: the first one with any
multiplier, and every one with a multiplier that is a power of two. So the first is the one configured,
although not even a hundredth of a second is a number of 64 bits, and delays double until they are the
longest delay, and stay so for as many attempts as there are. -/
theorem delayAfter_eq_exactNanos (policy : RetryPolicy) {attempt : UInt32}
    (waits : 0 < policy.config.initialDelay.nanos)
    (short : policy.config.maxDelay.nanos ≤ twoPow 20 * 1000000000)
    (doubles : attempt = 1 ∨ ∃ k : ℕ, policy.config.multiplier.value = 2 ^ k) :
    ((policy.delayAfter attempt).nanos : ℚ) = policy.exactNanos attempt ∧
      (attempt = 1 → policy.delayAfter attempt = policy.config.initialDelay) := by
  have longest := policy.maxDelay_pos waits
  obtain ⟨n, positive, grown, near⟩ := exists_grownNanos_eq waits doubles
  have delay := nanos_delayAfter_of_secondsNear positive longest short near
  constructor
  · rw [exactNanos, grown, delay, Nat.cast_min]
  · rintro rfl
    have first : (n : ℚ) = policy.config.initialDelay.nanos := by
      rw [← grown, grownNanos_one]
    refine Duration.ext_nanos ?_
    rw [delay, Nat.cast_inj.1 first]
    exact Nat.min_eq_left (Duration.le_iff.1 policy.valid.delays)

/-- The first attempt, and the last that has a number. -/
theorem delayAfter_eq_exactNanos_fast :
    ∃ valid : (Samples.fastConfig 4294967295).Valid,
      let policy : RetryPolicy := ⟨Samples.fastConfig 4294967295, valid⟩
      0 < policy.config.initialDelay.nanos ∧
        policy.config.maxDelay.nanos ≤ twoPow 20 * 1000000000 ∧
        policy.config.multiplier.value = 2 ^ 1 ∧
        policy.delayAfter 1 = policy.config.initialDelay ∧
        ((policy.delayAfter 4294967295).nanos : ℚ) = policy.exactNanos 4294967295 := by
  have valid : (Samples.fastConfig 4294967295).Valid :=
    ⟨by decide, by decide +kernel, by decide +kernel, by decide⟩
  have doubles : (Samples.fastConfig 4294967295).multiplier.value = 2 ^ 1 := by
    have two : (Samples.fastConfig 4294967295).multiplier = ofNat (twoPow 1) := by decide +kernel
    rw [two, value_ofNat_twoPow (by decide)]
  have waits : 0 < (Samples.fastConfig 4294967295).initialDelay.nanos := by decide
  have short : (Samples.fastConfig 4294967295).maxDelay.nanos ≤ twoPow 20 * 1000000000 := by decide
  exact ⟨valid, waits, short, doubles,
    (delayAfter_eq_exactNanos ⟨_, valid⟩ waits short (.inl rfl)).2 rfl,
    (delayAfter_eq_exactNanos ⟨_, valid⟩ waits short (.inr ⟨1, doubles⟩)).1⟩

end SteadyStore.RetryPolicy
