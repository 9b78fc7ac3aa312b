import SteadyStore.Proofs.Duration.Seconds
import SteadyStore.Proofs.Number.Squaring
import SteadyStore.Retry.Policy
/-!
# Delays stay in bounds and never shrink

The seconds to wait are a product of a span and a power that is not less than one, and they grow with
the attempts as long as they are finite (`backoffSeconds_upTo`). Where they are less than the longest
delay they stand for a span, and that span is not longer (`delayAfter_of_counts`). So delays never pass
the longest one (`delayAfter_le_maxDelay`), and none is shorter than an earlier one (`delayAfter_mono`).
-/

namespace SteadyStore.RetryPolicy

open Binary64

variable (policy : RetryPolicy)

/-! ## The seconds to wait -/

/-- What the first delay is multiplied by after an attempt. -/
def growth (attempt : UInt32) : Binary64 :=
  policy.config.multiplier.pow (min (attempt.toNat - 1) exponentLimit)

theorem growth_upTo {a b : UInt32} (h : a ≤ b) : (policy.growth a).UpTo (policy.growth b) := by
  have multiplier := atLeastOne_of_not_le policy.valid.finite policy.valid.growing
  refine pow_upTo_pow multiplier ?_
  have := UInt32.le_iff_toNat_le.1 h
  omega

theorem exists_backoffSeconds_eq :
    ∃ units onGrid, ∀ attempt,
      policy.backoffSeconds attempt = mul (.finite false units onGrid) (policy.growth attempt) := by
  obtain ⟨onGrid, initial⟩ := policy.config.initialDelay.inSeconds_eq
  exact ⟨_, onGrid, fun attempt => congrArg (mul · (policy.growth attempt)) initial⟩

/-- As long as the seconds to wait are a finite number, they grow with the attempts. -/
theorem backoffSeconds_upTo {a b : UInt32} (h : a ≤ b)
    (finite : (policy.backoffSeconds b).isFinite = true) :
    (policy.backoffSeconds a).UpTo (policy.backoffSeconds b) := by
  obtain ⟨units, onGrid, product⟩ := policy.exists_backoffSeconds_eq
  rw [product] at finite
  rw [product, product]
  exact (policy.growth_upTo h).finite_mul finite

/-! ## The delay -/

/-- The seconds to wait count when they are finite and less than the longest delay. -/
def Counts (attempt : UInt32) : Prop :=
  (policy.backoffSeconds attempt).isFinite = true ∧
    (policy.backoffSeconds attempt).lt policy.config.maxDelay.inSeconds = true

section Counts
variable {policy : RetryPolicy} {a b : UInt32}

/-- Where the seconds to wait count, those of earlier attempts are finite and not more. -/
theorem Counts.exists_seconds (counts : policy.Counts b) (h : a ≤ b) :
    ∃ x y hx hy, policy.backoffSeconds a = .finite false x hx ∧
      policy.backoffSeconds b = .finite false y hy ∧ x ≤ y :=
  (policy.backoffSeconds_upTo h counts.1).exists_finite counts.1

theorem counts_iff {units : Nat} {onGrid : Representable units}
    (seconds : policy.backoffSeconds a = .finite false units onGrid) :
    policy.Counts a ↔ units < policy.config.maxDelay.secondsUnits := by
  obtain ⟨_, longest⟩ := policy.config.maxDelay.inSeconds_eq
  rw [Counts, seconds, longest, lt_finite]
  exact and_iff_right rfl

theorem Counts.of_le (counts : policy.Counts b) (h : a ≤ b) : policy.Counts a := by
  obtain ⟨x, y, _, _, earlier, later, order⟩ := counts.exists_seconds h
  rw [counts_iff later] at counts
  rw [counts_iff earlier]
  exact Nat.lt_of_le_of_lt order counts

theorem delayAfter_of_not_counts (h : ¬policy.Counts a) :
    policy.delayAfter a = policy.config.maxDelay := by
  rw [delayAfter, if_neg]
  rwa [Bool.and_eq_true]

/-- What the seconds to wait are when they count, and the span that they stand for. -/
theorem delayAfter_of_counts (counts : policy.Counts a) :
    ∃ units onGrid, policy.backoffSeconds a = .finite false units onGrid ∧
      units < UInt64.size * unitsPerOne ∧
      Duration.ofSeconds? (policy.backoffSeconds a) = some (policy.delayAfter a) ∧
      (policy.delayAfter a).nanos = nearestEven (units * 1000000000) unitsPerOne ∧
      policy.delayAfter a ≤ policy.config.maxDelay := by
  have less := counts.2
  have counted : policy.delayAfter a =
      (Duration.ofSeconds? (policy.backoffSeconds a)).getD policy.config.maxDelay := by
    rw [delayAfter, if_pos]
    rw [counts.1, less]
    rfl
  obtain ⟨-, units, -, onGrid, -, seconds, -⟩ := counts.exists_seconds (UInt32.le_refl a)
  have below := (counts_iff seconds).1 counts
  rw [seconds] at less counted ⊢
  obtain ⟨span, handedOn, short, nanos⟩ := Duration.ofSeconds?_of_lt less
  rw [handedOn, Option.getD_some] at counted
  subst counted
  refine ⟨units, onGrid, rfl, ?_, handedOn, nanos, short⟩
  exact Nat.lt_of_lt_of_le below policy.config.maxDelay.secondsUnits_le_size

end Counts

theorem delayAfter_le (attempt : UInt32) : policy.delayAfter attempt ≤ policy.config.maxDelay := by
  by_cases counts : policy.Counts attempt
  · obtain ⟨_, _, _, _, _, _, short⟩ := delayAfter_of_counts counts
    exact short
  · rw [delayAfter_of_not_counts counts]
    exact Nat.le_refl _

/-- No delay is longer than the longest one, to the nanosecond, although the comparison is made with
numbers of seconds that are rounded. Seconds that become a span are in range and have no sign, so that
there is such a span, and it is the nearest one. -/
theorem delayAfter_le_maxDelay (attempt : UInt32) :
    let seconds := policy.backoffSeconds attempt
    let delay := policy.delayAfter attempt
    let longest := policy.config.maxDelay
    (policy.Counts attempt →
      ∃ units onGrid, seconds = .finite false units onGrid ∧
        units < UInt64.size * unitsPerOne ∧
        Duration.ofSeconds? seconds = some delay ∧
        2 * (delay.nanos * unitsPerOne) ≤ 2 * (units * 1000000000) + unitsPerOne ∧
        2 * (units * 1000000000) ≤ 2 * (delay.nanos * unitsPerOne) + unitsPerOne) ∧
    (¬policy.Counts attempt → delay = longest) ∧
    delay ≤ longest := by
  intro seconds delay longest
  refine ⟨fun counts => ?_, delayAfter_of_not_counts, policy.delayAfter_le attempt⟩
  obtain ⟨units, onGrid, product, inRange, handedOn, nanos, -⟩ := delayAfter_of_counts counts
  refine ⟨units, onGrid, product, inRange, handedOn, ?_, ?_⟩
  · rw [nanos]
    exact two_mul_nearestEven_le _ _
  · rw [nanos]
    exact le_two_mul_nearestEven _ unitsPerOne_pos

/-- No delay is shorter than an earlier one. The powers of the multiplier are rounded on ways of their
own, but none is less than a power before it, also where they leave the range and when the exponent
stops growing. -/
theorem delayAfter_mono {a b : UInt32} (h : a ≤ b) : policy.delayAfter a ≤ policy.delayAfter b := by
  by_cases later : policy.Counts b
  · have earlier := later.of_le h
    obtain ⟨x, y, _, _, seconds, seconds', order⟩ := later.exists_seconds h
    obtain ⟨_, _, product, -, -, nanos, -⟩ := delayAfter_of_counts earlier
    obtain ⟨_, _, product', -, -, nanos', -⟩ := delayAfter_of_counts later
    cases seconds.symm.trans product
    cases seconds'.symm.trans product'
    rw [Duration.le_iff, nanos, nanos']
    exact nearestEven_mono _ (Nat.mul_le_mul_right _ order)
  · rw [delayAfter_of_not_counts later]
    exact policy.delayAfter_le a

/-- After the eighth attempt the power takes three products, after the ninth it is a square. -/
theorem delayAfter_mono_default :
    (8 : UInt32) ≤ 9 ∧ RetryPolicy.default.delayAfter 8 ≤ RetryPolicy.default.delayAfter 9 :=
  ⟨by decide, delayAfter_mono .default (by decide)⟩

end SteadyStore.RetryPolicy
