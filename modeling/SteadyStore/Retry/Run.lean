import SteadyStore.Cause
import SteadyStore.Retry.Policy
/-!
# Running an operation with retries

`RetryPolicy.run` calls an operation, and calls it again after each failure that is
classified as retryable, until it succeeds, fails for good, or has been attempted as often
as the policy allows. The trace of a `Run` lists what happened in order: the calls, the
verdicts on failures, the events of the run itself, and the sleeps. Everything else that is
known of a run is read off its trace.
-/

namespace SteadyStore

/-! ## Errors -/

/-- Why a run gave up: an error that another attempt cannot help, or the last one of as many
as the policy allows. -/
inductive RetryError (ε : Type)
  | permanent (attempts : UInt32) (source : ε)
  | exhausted (attempts : UInt32) (source : ε)
deriving DecidableEq, Repr

namespace RetryError

variable {ε : Type}

/-- The number of attempts made. -/
def attempts : RetryError ε → UInt32
  | .permanent n _ | .exhausted n _ => n

def isExhausted : RetryError ε → Bool
  | .permanent _ _ => false
  | .exhausted _ _ => true

/-- The error of the operation. -/
def inner : RetryError ε → ε
  | .permanent _ e | .exhausted _ e => e

def text : RetryError ε → String
  | .permanent n _ => "Permanent failure (attempts: " ++ toString n.toNat ++ ")"
  | .exhausted n _ => "Retries exhausted after " ++ toString n.toNat ++ " attempts"

instance [HasCause ε] : HasCause (RetryError ε) :=
  ⟨fun e => (HasCause.cause e.inner).wrap e.text⟩

end RetryError

/-! ## What happens in a run -/

/-- One thing that happens in a run. -/
inductive Action
  /-- The operation was called, and logged these events. -/
  | call (events : List Event)
  /-- Its failure was classified, which logged these events. -/
  | judge (events : List Event)
  /-- The run itself logged an event. -/
  | note (event : Event)
  | sleep (delay : Duration)
deriving DecidableEq

namespace Action

/-- The events that were logged. -/
def events : Action → List Event
  | .call logged | .judge logged => logged
  | .note event => [event]
  | .sleep _ => []

/-- The event of the run itself. -/
def note? : Action → Option Event
  | .note event => some event
  | _ => none

def sleep? : Action → Option Duration
  | .sleep delay => some delay
  | _ => none

def isCall : Action → Bool
  | .call _ => true
  | _ => false

end Action

/-- A finished run: its result, the state it left, and what happened. -/
structure Run (σ ρ : Type) where
  result : ρ
  state : σ
  trace : List Action

namespace Run

variable {σ ρ : Type}

/-- All events in order. -/
def events (run : Run σ ρ) : List Event := run.trace.flatMap Action.events

/-- The events of the run itself. -/
def notes (run : Run σ ρ) : List Event := run.trace.filterMap Action.note?

/-- The delays that were slept. -/
def sleeps (run : Run σ ρ) : List Duration := run.trace.filterMap Action.sleep?

/-- The number of calls of the operation. -/
def calls (run : Run σ ρ) : Nat := run.trace.countP Action.isCall

/-- The milliseconds a timer waited for the sleeps. -/
def elapsedMillis (run : Run σ ρ) : Nat :=
  run.sleeps.foldr (fun delay millis => delay.timerMillis + millis) 0

end Run

/-! ## Events of a run -/

namespace RetryPolicy

/-- An event of the run, which names the operation. -/
def retryEvent (level : Level) (message label : String) (fields : List (String × FieldValue)) :
    Event :=
  { level, component := .retry, message, fields := ("operation", .text label) :: fields }

/-- An operation that needed more than one attempt succeeded. -/
def succeededEvent (label : String) (attempt : UInt32) : Event :=
  retryEvent .info ("Transaction successful after " ++ toString attempt.toNat ++ " attempts") label
    [("attempts", .count attempt.toNat)]

/-- The run gives up. -/
def gaveUpEvent (label : String) (attempt : UInt32) (errorText : String) : Event :=
  retryEvent .warn ("Transaction failed after " ++ toString attempt.toNat ++ " attempts") label
    [("attempts", .count attempt.toNat), ("error", .bare errorText)]

/-- An attempt failed with a retryable error. -/
def failedEvent (label : String) (attempt : UInt32) (errorText : String) : Event :=
  retryEvent .debug "Retry failed" label
    [("attempt", .count attempt.toNat), ("error", .bare errorText)]

/-- The run waits before the next attempt. -/
def backingOffEvent (label : String) (attempt : UInt32) (delay : Duration) : Event :=
  retryEvent .debug "Backing off before next attempt" label
    [("attempt", .count attempt.toNat), ("delay_ms", .count delay.millis)]

/-! ## The run -/

variable {σ ε α : Type} [HasCause ε]

/-- Below the attempts allowed the next attempt has the next number: it still fits the word. -/
theorem toNat_add_one_of_lt {attempt limit : UInt32} (h : attempt < limit) :
    (attempt + 1).toNat = attempt.toNat + 1 := by
  have below : attempt.toNat < limit.toNat := UInt32.lt_iff_toNat_lt.1 h
  have bound := limit.toNat_lt
  rw [UInt32.toNat_add, UInt32.toNat_one]
  omega

/-- The run from an attempt on. The attempts are up when the number of the attempt has reached
the number of attempts that the policy allows. -/
def runFrom (policy : RetryPolicy) (label : String) (operation : σ → Step σ (Except ε α))
    (classify : ε → Logged Signal) (attempt : UInt32) (state : σ) :
    Run σ (Except (RetryError ε) α) :=
  let step := operation state
  match step.value with
  | .ok value =>
    { result := .ok value
      state := step.state
      trace := .call step.events ::
        (if 1 < attempt then [.note (succeededEvent label attempt)] else []) }
  | .error e =>
    let verdict := classify e
    match verdict.value with
    | .permanent =>
      { result := .error (.permanent attempt e)
        state := step.state
        trace := .call step.events :: .judge verdict.events ::
          (if 1 < attempt then [.note (gaveUpEvent label attempt (errorText e))] else []) }
    | .retryable =>
      if allowed : attempt < policy.config.maxAttempts then
        let delay := policy.delayAfter attempt
        let rest := runFrom policy label operation classify (attempt + 1) step.state
        { rest with
          trace := .call step.events :: .judge verdict.events ::
            .note (failedEvent label attempt (errorText e)) ::
            .note (backingOffEvent label attempt delay) :: .sleep delay :: rest.trace }
      else
        { result := .error (.exhausted attempt e)
          state := step.state
          trace := [.call step.events, .judge verdict.events,
            .note (failedEvent label attempt (errorText e)),
            .note (gaveUpEvent label attempt (errorText e))] }
termination_by policy.config.maxAttempts.toNat - attempt.toNat
decreasing_by
  have next := toNat_add_one_of_lt allowed
  have below : attempt.toNat < policy.config.maxAttempts.toNat := UInt32.lt_iff_toNat_lt.1 allowed
  omega

/-- Runs an operation with retries. `classify` decides after each failure whether another
attempt is made, and `label` names the operation in the events. -/
def run (policy : RetryPolicy) (label : String) (operation : σ → Step σ (Except ε α))
    (classify : ε → Logged Signal) (state : σ) : Run σ (Except (RetryError ε) α) :=
  policy.runFrom label operation classify 1 state

end RetryPolicy

end SteadyStore
