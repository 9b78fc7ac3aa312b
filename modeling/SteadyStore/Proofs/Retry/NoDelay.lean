import SteadyStore.Proofs.Retry.Accuracy
import SteadyStore.Proofs.Retry.WaitingTime
/-!
# No first delay

Without a first delay there is nothing to grow, and no delay follows as long as the power of the
multiplier is in range (`delayAfter_of_no_delay`). Past that, zero times infinity is not a number, and the
delay is the longest one. So such a policy waits at all just when its last delay needs a power that is
out of range (`longestWait_of_no_delay`).
-/

namespace SteadyStore.RetryPolicy

open Binary64

variable {policy : RetryPolicy}

theorem exists_growth_finite {attempt : UInt32} (inRange : (policy.growth attempt).isFinite = true) :
    ∃ units onGrid, policy.growth attempt = .finite false units onGrid := by
  obtain ⟨units, _, onGrid, _, power, -⟩ :=
    (policy.growth_upTo (UInt32.le_refl attempt)).exists_finite inRange
  exact ⟨units, onGrid, power⟩

section NoDelay
variable (none : policy.config.initialDelay = .zero)
include none

theorem backoffSeconds_of_no_delay (attempt : UInt32) :
    policy.backoffSeconds attempt = mul (Binary64.zero false) (policy.growth attempt) := by
  have zero : policy.config.initialDelay.inSeconds = Binary64.zero false := by
    rw [none]
    decide +kernel
  exact congrArg (mul · (policy.growth attempt)) zero

/-- Without a first delay there is none, as long as the power is in range. -/
theorem delayAfter_of_no_delay (attempt : UInt32) :
    policy.delayAfter attempt =
      if (policy.growth attempt).isFinite then .zero else policy.config.maxDelay := by
  have product := backoffSeconds_of_no_delay none attempt
  split
  · rename_i inRange
    obtain ⟨units, onGrid, power⟩ := exists_growth_finite inRange
    have nothing : nearestUnits (0 * units) unitsPerOne = 0 :=
      Nat.le_zero.1 (nearestUnits_le_of_le unitsPerOne_pos (Nat.dvd_zero _) (by omega))
    have seconds : policy.backoffSeconds attempt = .finite false 0 representable_zero := by
      rw [product, power]
      exact roundRatio_eq nothing representable_zero
    refine Duration.ext_nanos ?_
    by_cases counts : policy.Counts attempt
    · obtain ⟨_, _, same, -, -, nanos, -⟩ := delayAfter_of_counts counts
      cases seconds.symm.trans same
      rw [nanos, Nat.zero_mul]
      exact Nat.le_zero.1 (nearestEven_le_of_le unitsPerOne_pos (Nat.zero_le _))
    · -- Zero is less than any longest delay but zero.
      rw [delayAfter_of_not_counts counts]
      refine Nat.eq_zero_of_not_pos fun waits => counts ?_
      exact (counts_iff seconds).2
        (Nat.lt_of_lt_of_le (twoPow_pos 52) (Duration.twoPow_le_secondsUnits waits))
  · rename_i beyond
    refine delayAfter_of_not_counts fun counts => ?_
    have power := (policy.atLeastOne_growth attempt).eq_infinite (Bool.eq_false_iff.2 beyond)
    have finite := counts.1
    rw [product, power] at finite
    cases finite

theorem delayAfter_eq_zero_iff (attempt : UInt32) :
    policy.delayAfter attempt = .zero ↔
      policy.config.maxDelay = .zero ∨ (policy.growth attempt).isFinite = true := by
  rw [delayAfter_of_no_delay none]
  split
  · rename_i inRange
    exact iff_of_true rfl (.inr inRange)
  · rename_i beyond
    exact (or_iff_left beyond).symm

end NoDelay

theorem isFinite_growth_of_le {a b : UInt32} (h : a ≤ b)
    (inRange : (policy.growth b).isFinite = true) : (policy.growth a).isFinite = true := by
  obtain ⟨units, _, onGrid, _, power, -⟩ := (policy.growth_upTo h).exists_finite inRange
  rw [power]
  rfl

theorem nanos_eq_zero_iff {d : Duration} : d.nanos = 0 ↔ d = .zero :=
  ⟨fun h => Duration.ext_nanos h, fun h => h ▸ rfl⟩

/-- Nothing is waited for when no delay after an attempt that allows another one is any. -/
theorem longestWait_eq_zero_iff :
    policy.longestWait = .zero ↔
      ∀ attempt ∈ Finset.Ico 1 policy.config.maxAttempts.toNat,
        policy.delayAfter (UInt32.ofNat attempt) = .zero := by
  have total : policy.longestWait.nanos =
      min (policy.delaySum (policy.config.maxAttempts.toNat - 1)) longestNanos := by
    rw [longestWait_eq_waited, nanos_waited]
  have long : 0 < longestNanos := by decide
  rw [← nanos_eq_zero_iff, total, delaySum, Nat.sub_add_cancel policy.maxAttempts_pos]
  simp only [← nanos_eq_zero_iff, ← Finset.sum_eq_zero_iff]
  omega

/-- Before the second attempt nothing is multiplied. -/
theorem isFinite_growth_zero : (policy.growth 0).isFinite = true := by
  have power : policy.growth 0 = one := powLoop_zero _ _
  rw [power, one_eq]
  rfl

theorem longestWait_of_no_delay (none : policy.config.initialDelay = .zero) :
    policy.longestWait = .zero ↔
      policy.config.maxDelay = .zero ∨
        (policy.growth (UInt32.ofNat (policy.config.maxAttempts.toNat - 1))).isFinite = true := by
  have bound := policy.maxAttempts_lt
  have positive := policy.maxAttempts_pos
  rw [longestWait_eq_zero_iff]
  simp only [delayAfter_eq_zero_iff none, Finset.mem_Ico]
  constructor
  · intro h
    rcases Nat.eq_or_lt_of_le positive with one | more
    · rw [← one]
      exact .inr isFinite_growth_zero
    · exact h _ (by omega)
  · rintro (longest | inRange) attempt ⟨-, below⟩
    · exact .inl longest
    · refine .inr (isFinite_growth_of_le (UInt32.le_iff_toNat_le.2 ?_) inRange)
      rw [UInt32.toNat_ofNat_of_lt' (by omega), UInt32.toNat_ofNat_of_lt' (by omega)]
      omega

variable {σ ε α : Type} [HasCause ε]

/-- No run waits where nothing is waited for at worst. -/
theorem sleeps_of_longestWait (policy : RetryPolicy) (nothing : policy.longestWait = .zero)
    (label : String) (operation : σ → Step σ (Except ε α)) (classify : ε → Logged Signal) (state : σ) :
    ∀ delay ∈ (policy.run label operation classify state).sleeps, delay = .zero := by
  obtain ⟨n, hn, unsettled, ends⟩ := policy.run_ends label operation classify state
  rw [ends.sleeps_eq unsettled]
  intro delay member
  obtain ⟨m, hm, rfl⟩ := List.mem_map.1 member
  have := List.mem_range.1 hm
  exact longestWait_eq_zero_iff.1 nothing (m + 1) (Finset.mem_Ico.2 (by omega))

/-- Without a first delay a delay is any only where the power of the multiplier is out of range, and is
then the longest one. A policy waits in all when the power for its last delay is, and no run of it waits
otherwise. -/
theorem waits_of_no_delay (policy : RetryPolicy) (none : policy.config.initialDelay = .zero)
    (label : String) (operation : σ → Step σ (Except ε α)) (classify : ε → Logged Signal) (state : σ) :
    let last := UInt32.ofNat (policy.config.maxAttempts.toNat - 1)
    (∀ attempt, policy.delayAfter attempt =
      if (policy.growth attempt).isFinite then .zero else policy.config.maxDelay) ∧
    (policy.longestWait = .zero ↔
      policy.config.maxDelay = .zero ∨ (policy.growth last).isFinite = true) ∧
    ((policy.growth last).isFinite = true →
      ∀ delay ∈ (policy.run label operation classify state).sleeps, delay = .zero) := by
  intro last
  refine ⟨delayAfter_of_no_delay none, longestWait_of_no_delay none, fun inRange => ?_⟩
  exact policy.sleeps_of_longestWait ((longestWait_of_no_delay none).2 (.inr inRange)) label
    operation classify state

/-- Delays that would double up to a second, but start from none. -/
def doubledNothing (maxAttempts : UInt32) : RetryConfig :=
  { initialDelay := .zero
    multiplier := .ofNat 2
    maxDelay := .ofNanos 1000000000
    maxAttempts }

theorem valid_doubledNothing {maxAttempts : UInt32} (attempts : 1 ≤ maxAttempts) :
    (doubledNothing maxAttempts).Valid := by
  refine ⟨attempts, ?_, ?_, Nat.zero_le _⟩
  · simp only [doubledNothing]
    decide +kernel
  · simp only [doubledNothing]
    decide +kernel

/-- An operation that always fails, and may always be tried again. -/
theorem waits_of_no_delay_in_range :
    let policy : RetryPolicy := ⟨doubledNothing 1025, valid_doubledNothing (by decide)⟩
    let busy : Unit → Step Unit (Except Cause Unit) := fun state => ⟨.error (.ofText "busy"), state, []⟩
    policy.config.initialDelay = .zero ∧ (policy.growth 1024).isFinite = true ∧
      policy.delayAfter 1024 = .zero ∧
      ∀ delay ∈ (policy.run "write" busy (fun _ => pure .retryable) ()).sleeps, delay = .zero := by
  intro policy busy
  have none : policy.config.initialDelay = .zero := rfl
  have inRange : (policy.growth 1024).isFinite = true := by decide +kernel
  obtain ⟨delays, -, sleeps⟩ :=
    waits_of_no_delay policy none "write" busy (fun _ => pure .retryable) ()
  refine ⟨none, inRange, ?_, sleeps inRange⟩
  rw [delays, if_pos inRange]

/-- Doubling nothing a thousand times makes a second. -/
theorem delayAfter_of_no_delay_out_of_range :
    let policy : RetryPolicy := ⟨doubledNothing 1026, valid_doubledNothing (by decide)⟩
    policy.config.initialDelay = .zero ∧ policy.delayAfter 1025 = .ofNanos 1000000000 ∧
      policy.longestWait ≠ .zero := by
  intro policy
  have none : policy.config.initialDelay = .zero := rfl
  have beyond : (policy.growth 1025).isFinite = false := by decide +kernel
  refine ⟨none, ?_, fun nothing => ?_⟩
  · rw [delayAfter_of_no_delay none, beyond]
    rfl
  · rcases (longestWait_of_no_delay none).1 nothing with longest | inRange
    · have second : policy.config.maxDelay ≠ .zero := by decide +kernel
      exact second longest
    · exact absurd inRange (Bool.eq_false_iff.1 beyond)

end SteadyStore.RetryPolicy
