import SteadyStore.Error.Service
import SteadyStore.Proofs.Cause.Description
import SteadyStore.Proofs.Retry.FirstSettled
import SteadyStore.Store.Retrying
/-!
# What a failed write reports

A write through the retry policy that fails says what happened, whatever the store behind it
answers: the last error of the store, the number of calls, whether the attempts were used up, and
all of this in one error event (`storeValue_reports`).
-/

namespace SteadyStore.RetryingStore

variable {σ : Type} [DataStore σ]

section Write
variable {doc : Address} {value : Json} {identity : Identity} {s : RetryingStore σ}

theorem storeValue_of_ok (written : (s.attempt doc value).result = .ok ()) :
    s.storeValue doc value identity =
      { result := .ok ()
        state := { s with inner := (s.attempt doc value).state }
        trace := (s.attempt doc value).trace } := by
  simp only [storeValue, written]

theorem storeValue_of_error {source : RetryError StoreError}
    (failed : (s.attempt doc value).result = .error source) :
    s.storeValue doc value identity =
      { result := .error { identity, source }
        state := { s with inner := (s.attempt doc value).state }
        trace := (s.attempt doc value).trace ++
          [.note (failureEvent doc { identity, source })] } := by
  simp only [storeValue, failed]

/-- A write makes the calls of the store that the run makes. -/
theorem calls_storeValue (doc : Address) (value : Json) (identity : Identity)
    (s : RetryingStore σ) :
    (s.storeValue doc value identity).calls = (s.attempt doc value).calls := by
  cases result : (s.attempt doc value).result with
  | ok => rw [storeValue_of_ok result, Run.calls, Run.calls]
  | error source =>
    rw [storeValue_of_error result, Run.calls, List.countP_append]
    rfl

end Write

/-! ## Reports -/

/-- The texts of failures that are exhausted and that are not differ, whatever was written. -/
theorem exhausted_text_ne (identity : Identity) :
    "Retries exhausted for storage of " ++ identity.text ≠ "Failed to store " ++ identity.text :=
  fun same => absurd ((String.append_left_inj _).1 same) (by decide)

theorem isExhausted_iff_text (failure : WriteFailure) :
    (failure.isExhausted = true ↔
      failure.text = "Retries exhausted for storage of " ++ failure.identity.text) ∧
    (failure.isExhausted = false ↔
      failure.text = "Failed to store " ++ failure.identity.text) := by
  have different := exhausted_text_ne failure.identity
  cases exhausted : failure.isExhausted <;>
    simp [WriteFailure.text, exhausted, different, different.symm]

/-- The failure itself, why the run gave up, and then the chain of the store's error. -/
theorem describe_failure (failure : WriteFailure) :
    failure.cause.describe =
      "caused by " ++ failure.text ++ " caused by " ++ failure.source.text ++ " " ++
        failure.storeError.cause.describe := by
  have inner : (HasCause.cause failure.source).describe =
      "caused by " ++ failure.source.text ++ " " ++ failure.storeError.cause.describe :=
    Cause.describe_wrap failure.source.text failure.storeError.cause
  rw [WriteFailure.cause, Cause.describe_wrap, inner]
  simp only [String.append_assoc]
  rfl

/-- A failed write says what happened in it. -/
structure Faithful (s : RetryingStore σ) (doc : Address) (value : Json) (identity : Identity)
    (run : Run (RetryingStore σ) (Except WriteFailure Unit)) (failure : WriteFailure) : Prop where
  /-- It is exhausted when the store's error could be retried. -/
  isExhausted_iff : failure.isExhausted = true ↔ failure.storeError.signal.value = .retryable
  /-- The store's error is what the last call of the store answered. -/
  storeError : (callAt (DataStore.store doc value) s.inner (run.calls - 1)).value =
    .error failure.storeError
  attempts_pos : 1 ≤ failure.attempts.toNat
  attempts_le : failure.attempts ≤ s.policy.config.maxAttempts
  /-- Its attempts are the calls of the store. -/
  attempts_eq_calls : failure.attempts.toNat = run.calls
  attempts_of_isExhausted :
    failure.isExhausted = true → failure.attempts = s.policy.config.maxAttempts
  text_iff_exhausted : failure.isExhausted = true ↔
    failure.text = "Retries exhausted for storage of " ++ identity.text
  text_iff_not_exhausted : failure.isExhausted = false ↔
    failure.text = "Failed to store " ++ identity.text
  chain : chainText failure =
    "caused by " ++ failure.text ++ " caused by " ++ failure.source.text ++ " " ++
      chainText failure.storeError
  /-- No service retries it. -/
  isRetryable : (ServiceError.writeFailure failure).isRetryable.value = false
  /-- The store in front reports it, once and as an error. -/
  reported : run.notes.filter (·.component = .decorator) =
      [{ level := .error
         component := .decorator
         message := if failure.isExhausted then "Retries exhausted for storage"
          else "Failed to store object"
         fields := [("schema", .bare doc.schema), ("key", .bare doc.key),
          ("identity", .bare identity.text), ("attempts", .count failure.attempts.toNat),
          ("error_chain", .bare (chainText failure))] }]

/-- The calls of the store for a write are not reported by the store in front. -/
theorem decorator_notes_attempt (doc : Address) (value : Json) (s : RetryingStore σ) :
    (s.attempt doc value).notes.filter (·.component = .decorator) = [] := by
  obtain ⟨n, -, -, ends⟩ :=
    s.policy.run_ends "storeObject" (DataStore.store doc value) StoreError.signal s.inner
  rw [List.filter_eq_nil_iff]
  intro event member
  obtain ⟨action, inTrace, isNote⟩ := List.mem_filterMap.1 member
  cases action <;> cases isNote
  have own : event.component = .retry := ends.isRetryNote_of_mem _ inTrace
  simp [own]

/-- Whatever a store answers, a write through the retry policy that fails says what happened, and
one that succeeds reports nothing. -/
theorem storeValue_reports (s : RetryingStore σ) (doc : Address) (value : Json)
    (identity : Identity) :
    let run := s.storeValue doc value identity
    match run.result with
    | .ok () => run.notes.filter (·.component = .decorator) = []
    | .error failure => s.Faithful doc value identity run failure := by
  intro run
  obtain ⟨n, hn, unsettled, ends⟩ :=
    s.policy.run_ends "storeObject" (DataStore.store doc value) StoreError.signal s.inner
  have quiet := decorator_notes_attempt doc value s
  cases result : (s.attempt doc value).result with
  | ok written =>
    have whole : run = _ := storeValue_of_ok result
    rw [whole]
    exact quiet
  | error source =>
    have whole : run = _ := storeValue_of_error result
    obtain ⟨last, attempts, exhausted, up⟩ := ends.of_error hn result
    have calls : run.calls = n + 1 :=
      (calls_storeValue doc value identity s).trans (ends.calls_eq unsettled)
    have notes : run.notes.filter (·.component = .decorator) =
        [failureEvent doc { identity, source }] := by
      rw [whole, Run.notes, List.filterMap_append, List.filter_append]
      exact congrArg (· ++ _) quiet
    have texts := isExhausted_iff_text { identity, source }
    have answer : run.result = .error { identity, source } := by rw [whole]
    rw [answer]
    exact
      { isExhausted_iff := exhausted
        storeError := by rw [calls]; exact last
        attempts_pos := by rw [WriteFailure.attempts, attempts]; omega
        attempts_le := by
          rw [UInt32.le_iff_toNat_le, WriteFailure.attempts, attempts]
          exact hn
        attempts_eq_calls := attempts.trans calls.symm
        attempts_of_isExhausted := up
        text_iff_exhausted := texts.1
        text_iff_not_exhausted := texts.2
        chain := describe_failure { identity, source }
        isRetryable := rfl
        reported := notes }

end SteadyStore.RetryingStore
