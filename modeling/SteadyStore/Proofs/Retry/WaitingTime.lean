import Mathlib.Algebra.BigOperators.Intervals
import Mathlib.Algebra.Order.BigOperators.Group.Finset
import SteadyStore.Proofs.Duration.Words
import SteadyStore.Proofs.Retry.Trace
/-!
# How long a run waits

A run waits no longer than its policy says, and exactly that long when it makes all the calls
allowed (`sleeps_le_longestWait`). The longest wait is the sum of the delays after all attempts but
the last (`nanos_waited`), or the longest span, and it is added up word by word (`words_waited`).
-/

namespace SteadyStore.RetryPolicy

/-! ## Delays in sequence -/

section Waited
variable (policy : RetryPolicy)

/-- The nanoseconds to wait after some attempts, from the first on. -/
def delaySum (n : Nat) : Nat :=
  ∑ attempt ∈ Finset.Ico 1 (n + 1), (policy.delayAfter (UInt32.ofNat attempt)).nanos

/-- The time spent waiting after some attempts, or the longest span. -/
def waited (n : Nat) : Duration :=
  Nat.fold n (fun i _ total => total + policy.delayAfter (UInt32.ofNat (i + 1))) .zero

theorem longestWait_eq_waited :
    policy.longestWait = policy.waited (policy.config.maxAttempts.toNat - 1) := rfl

theorem delaySum_succ (n : Nat) :
    policy.delaySum (n + 1) =
      policy.delaySum n + (policy.delayAfter (UInt32.ofNat (n + 1))).nanos :=
  Finset.sum_Ico_succ_top (by omega) _

theorem delaySum_mono {m n : Nat} (h : m ≤ n) : policy.delaySum m ≤ policy.delaySum n :=
  Finset.sum_le_sum_of_subset (Finset.Ico_subset_Ico_right (by omega))

theorem waited_succ (n : Nat) :
    policy.waited (n + 1) = policy.waited n + policy.delayAfter (UInt32.ofNat (n + 1)) :=
  Nat.fold_succ ..

/-- Stopping at the longest span along the way is stopping there at the end. -/
theorem nanos_waited (n : Nat) :
    (policy.waited n).nanos = min (policy.delaySum n) longestNanos := by
  induction n with
  | zero => rfl
  | succ n ih =>
    rw [waited_succ, Duration.nanos_add, ih, delaySum_succ]
    omega

/-- The words of the delays are added one by one. -/
theorem words_waited (n : Nat) :
    (policy.waited n).words =
      ((List.range n).map fun i => (policy.delayAfter (UInt32.ofNat (i + 1))).words).foldl
        Duration.Words.saturatingAdd Duration.zero.words := by
  induction n with
  | zero => rfl
  | succ n ih =>
    rw [waited_succ, Duration.words_add, ih, List.range_succ, List.map_append, List.map_singleton,
      List.foldl_concat]

theorem sum_delays (n : Nat) :
    (((List.range n).map fun i => policy.delayAfter (UInt32.ofNat (i + 1))).map
      Duration.nanos).sum = policy.delaySum n := by
  induction n with
  | zero => rfl
  | succ n ih =>
    rw [delaySum_succ, ← ih]
    simp only [List.range_succ, List.map_append, List.sum_append, List.map_singleton,
      List.sum_singleton]

end Waited

variable {σ ε α : Type} [HasCause ε]

/-- The sleeps of a run add up to no more than the longest wait of its policy, and to exactly that
when it makes all the calls allowed. The longest wait is the sum of the delays after all attempts
but the last, or the longest span. It is added up in words none of which wraps around, and neither
do the numbers of the attempts. -/
theorem sleeps_le_longestWait (policy : RetryPolicy) (label : String)
    (operation : σ → Step σ (Except ε α)) (classify : ε → Logged Signal) (state : σ) :
    let run := policy.run label operation classify state
    let allowed := policy.config.maxAttempts.toNat
    let total := Duration.ofNanos (run.sleeps.map Duration.nanos).sum
    total ≤ policy.longestWait ∧
    (run.calls = allowed → total = policy.longestWait) ∧
    policy.longestWait.nanos =
      min (∑ attempt ∈ Finset.Ico 1 allowed, (policy.delayAfter (UInt32.ofNat attempt)).nanos)
        longestNanos ∧
    policy.longestWait.words =
      ((List.range (allowed - 1)).map fun n =>
        (policy.delayAfter (UInt32.ofNat (n + 1))).words).foldl
        Duration.Words.saturatingAdd Duration.zero.words ∧
    ∀ attempt < allowed, (UInt32.ofNat attempt).toNat = attempt := by
  intro run allowed total
  obtain ⟨n, hn, unsettled, ends⟩ := policy.run_ends label operation classify state
  have sleeps : total.nanos = min (policy.delaySum n) longestNanos := by
    rw [Duration.nanos_ofNanos, ends.sleeps_eq unsettled, sum_delays]
  have longest : policy.longestWait.nanos = min (policy.delaySum (allowed - 1)) longestNanos := by
    rw [longestWait_eq_waited, nanos_waited]
  have sum : policy.delaySum (allowed - 1) =
      ∑ attempt ∈ Finset.Ico 1 allowed, (policy.delayAfter (UInt32.ofNat attempt)).nanos := by
    rw [delaySum, Nat.sub_add_cancel policy.maxAttempts_pos]
  have bound : allowed < UInt32.size := policy.maxAttempts_lt
  refine ⟨?_, fun all => ?_, ?_, ?_, fun attempt below => ?_⟩
  · rw [Duration.le_iff, sleeps, longest]
    exact min_le_min_right _ (policy.delaySum_mono (by omega))
  · rw [show run.calls = n + 1 from ends.calls_eq unsettled] at all
    refine Duration.ext_nanos ?_
    rw [sleeps, longest, ← all, Nat.add_sub_cancel]
  · rw [longest, sum]
  · rw [longestWait_eq_waited, words_waited]
  · exact UInt32.toNat_ofNat_of_lt' (by omega)

end SteadyStore.RetryPolicy
