import SteadyStore.Retry.Config
/-!
# Backoff

A policy is a valid configuration. The delay after a failed attempt grows by the
multiplier up to the longest delay (`delayAfter`), and `longestWait` is the time
spent waiting when every attempt fails.
-/

namespace SteadyStore

/-- A configuration that can be used. -/
structure RetryPolicy where
  config : RetryConfig
  valid : config.Valid

namespace RetryPolicy

protected def default : RetryPolicy := ⟨.default, RetryConfig.valid_default⟩

instance : Inhabited RetryPolicy := ⟨.default⟩

/-- The policy of a configuration, if it is valid. -/
def ofConfig (config : RetryConfig) : Except RetryConfig.Fault RetryPolicy :=
  match h : config.validate with
  | .error fault => .error fault
  | .ok () => .ok ⟨config, RetryConfig.validate_eq_ok_iff.1 h⟩

/-- The exponents of powers stop here. -/
def exponentLimit : Nat := twoPow 31 - 1

/-- The seconds to wait after an attempt, before the longest delay is considered. -/
def backoffSeconds (policy : RetryPolicy) (attempt : UInt32) : Binary64 :=
  .mul policy.config.initialDelay.inSeconds
    (policy.config.multiplier.pow (min (attempt.toNat - 1) exponentLimit))

/-- How long to wait after a failed attempt; attempts count from one. What is not less
than the longest delay, or not a finite number, is the longest delay. -/
def delayAfter (policy : RetryPolicy) (attempt : UInt32) : Duration :=
  let seconds := policy.backoffSeconds attempt
  if seconds.isFinite && seconds.lt policy.config.maxDelay.inSeconds then
    (Duration.ofSeconds? seconds).getD policy.config.maxDelay
  else policy.config.maxDelay

/-- The sum of the delays after all attempts but the last, or the longest span. -/
def longestWait (policy : RetryPolicy) : Duration :=
  Nat.fold (policy.config.maxAttempts.toNat - 1)
    (fun i _ total => total + policy.delayAfter (UInt32.ofNat (i + 1))) .zero

theorem maxAttempts_pos (policy : RetryPolicy) : 0 < policy.config.maxAttempts.toNat := by
  have : 1 ≤ policy.config.maxAttempts.toNat := by
    simpa using UInt32.le_iff_toNat_le.1 policy.valid.attempts
  omega

end RetryPolicy

end SteadyStore
