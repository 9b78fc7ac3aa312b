import SteadyStore.Proofs.Number.TwoPowers
import SteadyStore.Proofs.Retry.Backoff
/-!
# Delays beside their formula

The delay after an attempt is the first delay times a power of the multiplier, or the longest delay if
that is less (`exactNanos`). The number of seconds is some roundings away from that, or out of range
(`SecondsNear`), and then so is the delay (`exists_near_delayAfter`).
-/

namespace SteadyStore.RetryPolicy

open Binary64

variable (policy : RetryPolicy)

/-! ## The formula -/

/-- The first delay times the power of the multiplier, in nanoseconds and without any rounding. -/
def grownNanos (attempt : UInt32) : ℚ :=
  policy.config.initialDelay.nanos * policy.config.multiplier.value ^ (attempt.toNat - 1)

/-- The delay after an attempt in nanoseconds, without any rounding. -/
def exactNanos (attempt : UInt32) : ℚ :=
  min (policy.grownNanos attempt) policy.config.maxDelay.nanos

/-! ## Seconds some roundings away -/

/-- The seconds to wait after an attempt are those of a time in nanoseconds, up to so many roundings. Or
they are out of range, and the time is not shorter than the longest delay. -/
inductive SecondsNear (attempt : UInt32) (rounds : ℕ) (nanos : ℚ) : Prop
  | finite {units : ℕ} {onGrid : Representable units}
    (seconds : policy.backoffSeconds attempt = .finite false units onGrid)
    (near : Near rounds (magnitude units) (nanos / 1000000000))
  | infinite (seconds : policy.backoffSeconds attempt = .infinite false)
    (long : policy.config.maxDelay.nanos ≤ nanos)

variable {policy} {attempt : UInt32} {rounds : ℕ} {nanos : ℚ}

/-- Seconds that are near those of a time are near it when both are counted in nanoseconds. -/
theorem near_nanos {seconds : ℚ} (h : Near rounds seconds (nanos / 1000000000)) :
    Near rounds (seconds * 1000000000) nanos := by
  have scaled := h.mul_right (a := 1000000000) (by norm_num)
  rwa [div_mul_cancel₀ _ (by norm_num)] at scaled

/-- A number of seconds is rounded to a whole number of nanoseconds by half of one at most. -/
theorem abs_nearestEven_sub_le (units : ℕ) :
    |(nearestEven (units * 1000000000) unitsPerOne : ℚ) - magnitude units * 1000000000| ≤ 1 / 2 := by
  have up := two_mul_nearestEven_le (units * 1000000000) unitsPerOne
  have down := le_two_mul_nearestEven (units * 1000000000) unitsPerOne_pos
  obtain ⟨nanos, rounded⟩ :
    ∃ nanos, nearestEven (units * 1000000000) unitsPerOne = nanos := ⟨_, rfl⟩
  rw [rounded] at up down ⊢
  have unit := unitsPerOne_cast_pos
  have scaled : magnitude units * unitsPerOne = units := div_mul_cancel₀ _ unit.ne'
  have up' : (2 * (nanos * unitsPerOne) : ℚ) ≤ 2 * (units * 1000000000) + unitsPerOne := by
    exact_mod_cast up
  have down' : (2 * (units * 1000000000) : ℚ) ≤ 2 * (nanos * unitsPerOne) + unitsPerOne := by
    exact_mod_cast down
  rw [abs_le]
  constructor <;> refine le_of_mul_le_mul_right ?_ unit <;> linarith

theorem near_maxDelay (waits : 0 < policy.config.maxDelay.nanos) :
    Near 2 (magnitude policy.config.maxDelay.secondsUnits * 1000000000)
      policy.config.maxDelay.nanos :=
  near_nanos (Duration.near_secondsUnits waits)

section Finite
variable {units : ℕ} {onGrid : Representable units}
  (waits : 0 < policy.config.maxDelay.nanos)
  (seconds : policy.backoffSeconds attempt = .finite false units onGrid)
include waits seconds

/-- Seconds that count are not longer than the longest delay, up to the roundings of that. -/
theorem atMost_maxDelay_of_counts (counts : policy.Counts attempt) :
    AtMost 2 (magnitude units * 1000000000) policy.config.maxDelay.nanos := by
  have below : magnitude units ≤ magnitude policy.config.maxDelay.secondsUnits :=
    magnitude_le.2 (Nat.le_of_lt ((counts_iff seconds).1 counts))
  exact le_trans (mul_le_mul_of_nonneg_right below (by norm_num)) (near_maxDelay waits).le

/-- The time of seconds that do not count is not shorter than the longest delay, up to the roundings
of both. -/
theorem maxDelay_atMost_of_not_counts (notCounts : ¬policy.Counts attempt)
    (near : Near rounds (magnitude units) (nanos / 1000000000)) :
    AtMost (rounds + 2) policy.config.maxDelay.nanos nanos := by
  have notLess : magnitude policy.config.maxDelay.secondsUnits ≤ magnitude units :=
    magnitude_le.2 (Nat.not_lt.1 fun less => notCounts ((counts_iff seconds).2 less))
  rw [Nat.add_comm]
  exact (near_maxDelay waits).ge.trans
    (le_trans (mul_le_mul_of_nonneg_right notLess (by norm_num)) (near_nanos near).le)

end Finite

/-- The delay is half a nanosecond away from a number that is, up to the roundings of the seconds and
those of the longest delay, what the time and the longest delay ask for. The comparison with the longest
delay may go wrong only where the two are as close as that. -/
theorem exists_near_delayAfter (waits : 0 < policy.config.maxDelay.nanos) (positive : 0 < nanos)
    (h : policy.SecondsNear attempt rounds nanos) :
    ∃ waited : ℚ, |((policy.delayAfter attempt).nanos : ℚ) - waited| ≤ 1 / 2 ∧
      Near (rounds + 2) waited (min nanos policy.config.maxDelay.nanos) := by
  have notNegative : (0 : ℚ) ≤ policy.config.maxDelay.nanos := Nat.cast_nonneg _
  have itself := (Near.refl (policy.config.maxDelay.nanos : ℚ)).mono
    (Nat.zero_le (rounds + 2)) notNegative notNegative
  have atLongest (notCounts : ¬policy.Counts attempt) :
      |((policy.delayAfter attempt).nanos : ℚ) - policy.config.maxDelay.nanos| ≤ 1 / 2 := by
    rw [delayAfter_of_not_counts notCounts, sub_self, abs_zero]
    norm_num
  cases h with
  | infinite seconds long =>
    have notCounts : ¬policy.Counts attempt := fun counts => by
      have finite := counts.1
      rw [seconds] at finite
      cases finite
    exact ⟨_, atLongest notCounts, (min_eq_right long).symm ▸ itself⟩
  | @finite units onGrid seconds near =>
    by_cases counts : policy.Counts attempt
    · obtain ⟨_, _, product, -, -, rounded, -⟩ := delayAfter_of_counts counts
      cases seconds.symm.trans product
      have inNanos := near_nanos near
      have notLonger := atMost_maxDelay_of_counts waits seconds counts
      have notNegativeSeconds : 0 ≤ magnitude units * 1000000000 :=
        mul_nonneg (magnitude_nonneg units) (by norm_num)
      refine ⟨magnitude units * 1000000000, ?_, ?_, ?_⟩
      · rw [rounded]
        exact abs_nearestEven_sub_le units
      · exact (inNanos.le.mono (Nat.le_add_right _ 2) positive.le).min
          (notLonger.mono (Nat.le_add_left 2 _) notNegative)
      · exact le_trans (min_le_left _ _)
          (inNanos.ge.mono (Nat.le_add_right _ 2) notNegativeSeconds)
    · have reached := maxDelay_atMost_of_not_counts waits seconds counts near
      exact ⟨_, atLongest counts, reached.min itself.le, le_trans (min_le_right _ _) itself.ge⟩

/-! ## Where the seconds come from -/

/-- A time that is out of range up to some roundings is not shorter than any span. -/
theorem nanos_le_of_beyond (d : Duration) {seconds : ℚ} (few : rounds ≤ UInt32.size)
    (beyond : AtMost rounds rangeEnd seconds) : (d.nanos : ℚ) ≤ seconds := by
  have half := beyond.le_two_mul few (beyond.pos rangeEnd_pos).le
  have far : (2 : ℚ) ^ 95 ≤ rangeEnd := by
    rw [← magnitude_twoPow_mul, twoPow_mul_unitsPerOne]
    exact magnitude_le.2 (twoPow_le (by decide))
  have short : (d.nanos : ℚ) ≤ 2 ^ 94 := by
    have bound : longestNanos ≤ 2 ^ 94 := by decide
    exact_mod_cast Nat.le_trans d.inRange bound
  linarith

theorem secondsNear_of_approximates (few : rounds ≤ UInt32.size) (positive : 0 ≤ nanos)
    (h : (policy.backoffSeconds attempt).Approximates rounds (nanos / 1000000000)) :
    policy.SecondsNear attempt rounds nanos := by
  obtain ⟨seconds, hseconds⟩ : ∃ seconds, policy.backoffSeconds attempt = seconds := ⟨_, rfl⟩
  rw [hseconds] at h
  cases h with
  | finite near => exact .finite hseconds near
  | infinite beyond =>
    refine .infinite hseconds (le_trans (nanos_le_of_beyond _ few beyond) ?_)
    exact div_le_self positive (by norm_num)

theorem atLeastOne_growth (policy : RetryPolicy) (attempt : UInt32) :
    (policy.growth attempt).AtLeastOne :=
  (atLeastOne_of_not_le policy.valid.finite policy.valid.growing).pow _

/-- The seconds to wait are a product of the first delay and the growth. -/
theorem backoffSeconds_eq (policy : RetryPolicy) (attempt : UInt32) :
    ∃ onGrid, policy.backoffSeconds attempt =
      mul (.finite false policy.config.initialDelay.secondsUnits onGrid) (policy.growth attempt) := by
  obtain ⟨onGrid, initial⟩ := policy.config.initialDelay.inSeconds_eq
  exact ⟨onGrid, congrArg (mul · (policy.growth attempt)) initial⟩

theorem backoffSeconds_of_infinite (waits : 0 < policy.config.initialDelay.nanos)
    (beyond : policy.growth attempt = .infinite false) :
    policy.backoffSeconds attempt = .infinite false := by
  obtain ⟨onGrid, product⟩ := policy.backoffSeconds_eq attempt
  have some := Nat.lt_of_lt_of_le (twoPow_pos 52) (Duration.twoPow_le_secondsUnits waits)
  rw [product, beyond]
  exact if_neg (Nat.ne_of_gt some)

/-- With a growth that is out of range the time is as long as any span. -/
theorem secondsNear_of_infinite {growth : ℚ} (waits : 0 < policy.config.initialDelay.nanos)
    (few : rounds ≤ UInt32.size) (seconds : policy.growth attempt = .infinite false)
    (beyond : AtMost rounds rangeEnd growth) {more : ℕ} :
    policy.SecondsNear attempt more (policy.config.initialDelay.nanos * growth) := by
  refine .infinite (backoffSeconds_of_infinite waits seconds) ?_
  have atLeast : (1 : ℚ) ≤ policy.config.initialDelay.nanos := by exact_mod_cast waits
  exact le_trans (nanos_le_of_beyond _ few beyond)
    (le_mul_of_one_le_left (beyond.pos rangeEnd_pos).le atLeast)

/-- The seconds to wait are a product: two roundings in the span, those of the power, and one more. -/
theorem secondsNear_of_growth {growth : ℚ} (waits : 0 < policy.config.initialDelay.nanos)
    (few : rounds + 3 ≤ UInt32.size) (h : (policy.growth attempt).Approximates rounds growth) :
    policy.SecondsNear attempt (rounds + 3) (policy.config.initialDelay.nanos * growth) := by
  have least := policy.atLeastOne_growth attempt
  have positive : 0 < growth := (h.one_atMost least).pos one_pos
  obtain ⟨power, hpower⟩ : ∃ power, policy.growth attempt = power := ⟨_, rfl⟩
  rw [hpower] at h least
  cases h with
  | infinite beyond =>
    exact secondsNear_of_infinite waits (Nat.le_trans (Nat.le_add_right _ _) few) hpower beyond
  | @finite units _ near =>
    obtain ⟨onGrid, product⟩ := policy.backoffSeconds_eq attempt
    have initial := Duration.near_secondsUnits waits
    refine secondsNear_of_approximates few (by positivity) ?_
    rw [product, hpower, mul_finite]
    refine approximates_roundRatio unitsPerOne_pos ?_ ?_
    · cases least with
      | finite atLeast => exact Nat.mul_le_mul (Duration.twoPow_le_secondsUnits waits) atLeast
    · have both := initial.mul near (magnitude_nonneg _) (magnitude_nonneg _) (by positivity)
        positive.le
      rw [magnitude, magnitude, div_mul_div_comm, ← div_div, ← Nat.cast_mul, div_mul_eq_mul_div,
        Nat.add_comm] at both
      exact both

/-! ## The delay -/

theorem maxDelay_pos (policy : RetryPolicy) (waits : 0 < policy.config.initialDelay.nanos) :
    0 < policy.config.maxDelay.nanos :=
  Nat.lt_of_lt_of_le waits (Duration.le_iff.1 policy.valid.delays)

/-- The growth goes through a rounding for each attempt before at most. -/
theorem growth_approximates (policy : RetryPolicy) (h : attempt.toNat ≤ twoPow 31) :
    (policy.growth attempt).Approximates (attempt.toNat - 1)
      (policy.config.multiplier.value ^ (attempt.toNat - 1)) := by
  have exponent : min (attempt.toNat - 1) exponentLimit = attempt.toNat - 1 :=
    Nat.min_eq_left (Nat.sub_le_sub_right h 1)
  rw [growth, exponent]
  exact approximates_pow (atLeastOne_of_not_le policy.valid.finite policy.valid.growing)
    policy.valid.finite _

/-- The delay is as long as the formula says, up to a part in `2 ^ 20` and a nanosecond: some sixty
products are rounded on the way to the power, squares of squares among them, and rounded numbers are
compared to choose between it and the longest delay. Where a number leaves the range on the way, the
formula asks for the longest delay too. -/
theorem delayAfter_near_exactNanos (policy : RetryPolicy) {attempt : UInt32}
    (waits : 0 < policy.config.initialDelay.nanos) (bounded : attempt.toNat ≤ twoPow 31) :
    |((policy.delayAfter attempt).nanos : ℚ) - policy.exactNanos attempt| ≤
      policy.exactNanos attempt / 2 ^ 20 + 1 ∧
    ((policy.growth attempt).isFinite = false ∨ (policy.backoffSeconds attempt).isFinite = false →
      policy.config.maxDelay.nanos ≤ policy.exactNanos attempt) := by
  have longest := policy.maxDelay_pos waits
  have few : attempt.toNat - 1 + 3 + 2 ≤ UInt32.size := by
    have fold : twoPow 31 = 2147483648 := rfl
    have fold' : UInt32.size = 4294967296 := rfl
    omega
  have growth := policy.growth_approximates bounded
  have near := secondsNear_of_growth waits (Nat.le_trans (Nat.le_add_right _ 2) few) growth
  have grown : 0 < policy.grownNanos attempt :=
    mul_pos (by exact_mod_cast waits)
      ((growth.one_atMost (policy.atLeastOne_growth attempt)).pos one_pos)
  have exact : 0 < policy.exactNanos attempt := lt_min grown (by exact_mod_cast longest)
  constructor
  · obtain ⟨waited, rounded, nearWaited⟩ := exists_near_delayAfter longest grown near
    have away : |waited - policy.exactNanos attempt| ≤ policy.exactNanos attempt / 2 ^ 20 :=
      nearWaited.abs_sub_le few exact.le
    have sum := abs_sub_le ((policy.delayAfter attempt).nanos : ℚ) waited (policy.exactNanos attempt)
    linarith
  · intro beyond
    have seconds : (policy.backoffSeconds attempt).isFinite = false := by
      rcases beyond with power | product
      · rw [backoffSeconds_of_infinite waits ((policy.atLeastOne_growth attempt).eq_infinite power)]
        rfl
      · exact product
    cases near with
    | finite finite _ =>
      rw [finite] at seconds
      cases seconds
    | infinite _ long => exact le_min long le_rfl

/-- After four thousand attempts the power is out of range. -/
theorem delayAfter_near_exactNanos_default :
    0 < RetryPolicy.default.config.initialDelay.nanos ∧ (4000 : UInt32).toNat ≤ twoPow 31 ∧
      |((RetryPolicy.default.delayAfter 4000).nanos : ℚ) - RetryPolicy.default.exactNanos 4000| ≤
        RetryPolicy.default.exactNanos 4000 / 2 ^ 20 + 1 ∧
      (RetryPolicy.default.growth 4000).isFinite = false ∧
      RetryPolicy.default.config.maxDelay.nanos ≤ RetryPolicy.default.exactNanos 4000 := by
  have waits : 0 < RetryPolicy.default.config.initialDelay.nanos := by decide
  have bounded : (4000 : UInt32).toNat ≤ twoPow 31 := by decide
  have beyond : (RetryPolicy.default.growth 4000).isFinite = false := by decide +kernel
  obtain ⟨near, longest⟩ := delayAfter_near_exactNanos .default waits bounded
  exact ⟨waits, bounded, near, beyond, longest (.inl beyond)⟩

end SteadyStore.RetryPolicy
