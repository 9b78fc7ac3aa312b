import SteadyStore.Duration
/-!
# Retry configuration

How often a failed operation is attempted again, and how long to wait in between. A
configuration is `Valid` when it allows at least one attempt, its multiplier is finite
and above one, and its first delay is not longer than its longest; `validate` reports
the first of these that fails (`validate_eq_ok_iff`).
-/

namespace SteadyStore

structure RetryConfig where
  /-- The delay before the second attempt. -/
  initialDelay : Duration
  /-- What each delay is multiplied by to give the next. -/
  multiplier : Binary64
  /-- No delay is longer. -/
  maxDelay : Duration
  /-- The number of attempts, the first one included. -/
  maxAttempts : UInt32
deriving DecidableEq

namespace RetryConfig

/-- Ten attempts, with delays from 100 milliseconds to 16 seconds that grow by a fifth. -/
protected def default : RetryConfig :=
  { initialDelay := .ofNanos 100000000
    multiplier := .ofRatio 12 10
    maxDelay := .ofNanos 16000000000
    maxAttempts := 10 }

instance : Inhabited RetryConfig := ⟨.default⟩

/-- The configuration on one line. -/
def text (config : RetryConfig) : String :=
  "RetryConfig \x7b initial_delay: " ++ config.initialDelay.text ++
    ", multiplier: " ++ NumberStyle.marked.write config.multiplier ++
    ", max_delay: " ++ config.maxDelay.text ++
    ", max_attempts: " ++ toString config.maxAttempts.toNat ++ " \x7d"

/-! ## Validity -/

/-- Why a configuration cannot be used. -/
inductive Fault
  | noAttempts
  | multiplier (given : Binary64)
  | delays (max initial : Duration)
deriving DecidableEq

def Fault.message : Fault → String
  | .noAttempts => "retry max attempts must be at least 1"
  | .multiplier given =>
    "retry multiplier must be greater than 1.0, got " ++ NumberStyle.plain.write given
  | .delays max initial =>
    "retry max delay " ++ max.text ++ " is shorter than initial delay " ++ initial.text

/-- What a policy needs. -/
structure Valid (config : RetryConfig) : Prop where
  attempts : 1 ≤ config.maxAttempts
  finite : config.multiplier.isFinite = true
  growing : config.multiplier.le .one = false
  delays : config.initialDelay ≤ config.maxDelay

/-- The first check that fails: attempts, multiplier, delays. -/
def validate (config : RetryConfig) : Except Fault Unit :=
  if config.maxAttempts < 1 then .error .noAttempts
  else if !config.multiplier.isFinite || config.multiplier.le .one then
    .error (.multiplier config.multiplier)
  else if config.maxDelay < config.initialDelay then
    .error (.delays config.maxDelay config.initialDelay)
  else .ok ()

theorem validate_eq_ok_iff {config : RetryConfig} : config.validate = .ok () ↔ config.Valid := by
  unfold validate
  constructor
  · intro h
    split at h
    · cases h
    rename_i attempts
    split at h
    · cases h
    rename_i multiplier
    split at h
    · cases h
    rename_i delays
    simp only [Bool.or_eq_true, Bool.not_eq_true', not_or, Bool.not_eq_false,
      Bool.not_eq_true] at multiplier
    exact ⟨UInt32.not_lt.1 attempts, multiplier.1, multiplier.2,
      Duration.le_iff.2 (Nat.not_lt.1 delays)⟩
  · rintro ⟨attempts, finite, growing, delays⟩
    have notShorter : ¬config.maxDelay < config.initialDelay := Nat.not_lt.2 delays
    rw [if_neg (UInt32.not_lt.2 attempts), if_neg (by simp [finite, growing]), if_neg notShorter]

theorem valid_default : RetryConfig.default.Valid :=
  ⟨by decide, by decide +kernel, by decide +kernel, by decide +kernel⟩

end RetryConfig

end SteadyStore
