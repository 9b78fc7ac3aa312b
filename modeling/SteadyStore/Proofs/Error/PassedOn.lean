import SteadyStore.Proofs.Cause.FirstStatus
import SteadyStore.Proofs.Retry.FirstSettled
import SteadyStore.Store.Basic
/-!
# Failed writes that are passed on

A store that is built on another one reports a failed write of that store as the cause of a failure of
its own (`passedOn`). Such a report is judged as what the write failed with is (`signal_passedOn`): the
layers in between do not count, and neither does it count that the write went through retries. So a
policy in front of the outer store makes all its attempts when the innermost failure is an overload,
and one attempt when it is not (`passedOn_judged_as_cause`).
-/

namespace SteadyStore

/-! ## Failures that stay the same -/

namespace RetryPolicy

variable {σ ε α : Type} [HasCause ε]

/-- An operation that fails in one way in every state is called once, or as often as is allowed. -/
theorem run_of_same_failure (policy : RetryPolicy) (label : String)
    {operation : σ → Step σ (Except ε α)} {e : ε} (fails : ∀ state, (operation state).value = .error e)
    (classify : ε → Logged Signal) (state : σ) :
    let run := policy.run label operation classify state
    match (classify e).value with
    | .permanent => run.calls = 1 ∧ run.result = .error (.permanent 1 e)
    | .retryable => run.calls = policy.config.maxAttempts.toNat ∧
        run.result = .error (.exhausted policy.config.maxAttempts e) := by
  intro run
  obtain ⟨n, hn, unsettled, ends⟩ := policy.run_ends label operation classify state
  have outcome : ∀ m, (callAt operation state m).value = .error e := fun m => fails _
  have calls : run.calls = n + 1 := ends.calls_eq unsettled
  cases verdict : (classify e).value with
  | permanent =>
    have settled : Settles classify (callAt operation state 0).value := by
      rw [outcome]
      exact verdict
    -- The first call settles the run, so none came before the last.
    obtain rfl : n = 0 := by
      by_contra later
      exact unsettled 0 (Nat.pos_of_ne_zero later) settled
    have result := ends.result_of_settles hn settled
    rw [outcome] at result
    obtain ⟨attempts, first, result⟩ := result
    obtain rfl : attempts = 1 := UInt32.toNat_inj.1 first
    exact ⟨calls, result⟩
  | retryable =>
    have leftOpen : ¬Settles classify (callAt operation state n).value := by
      rw [outcome]
      exact not_settles_of_retryable verdict
    obtain ⟨up, other, failed, result⟩ := ends.result_of_not_settles leftOpen
    rw [outcome] at failed
    cases failed
    exact ⟨calls.trans up, result⟩

end RetryPolicy

/-! ## Layers -/

/-- A layer that is put around an error on its way out. -/
inductive Layer
  /-- A client says what failed. -/
  | client (message : String)
  /-- A store reports the error as the cause of a failure of its own. -/
  | store (message : String)
deriving DecidableEq, Repr

namespace Cause

def inLayer (cause : Cause) : Layer → Cause
  | .client message => cause.wrap message
  | .store message => (StoreError.failed message (some cause)).cause

/-- The error in layers, the first of them innermost. -/
def inLayers (cause : Cause) (layers : List Layer) : Cause := layers.foldl inLayer cause

theorem Keeps.inLayers {inner outer : Cause} (keeps : inner.Keeps outer) (layers : List Layer) :
    inner.Keeps (outer.inLayers layers) := by
  induction layers generalizing outer with
  | nil => exact keeps
  | cons layer layers ih =>
    cases layer with
    | client message => exact ih (.wrap message keeps)
    | store message => exact ih (.failed message keeps)

end Cause

namespace WriteFailure

/-- What a store reports that is built on the store with the failed write. -/
def passedOn (failure : WriteFailure) (layers : List Layer) (message : String) : StoreError :=
  .failed message (some (failure.cause.inLayers layers))

/-- What the write failed with is kept in all layers. -/
theorem keeps_passedOn (failure : WriteFailure) (layers : List Layer) (message : String) :
    failure.storeError.cause.Keeps (failure.passedOn layers message).cause := by
  have run : failure.storeError.cause.Keeps (HasCause.cause failure.source) := .run _ .itself
  exact .failed message (Cause.Keeps.inLayers (.write failure run) layers)

theorem signal_passedOn (failure : WriteFailure) (layers : List Layer) (message : String) :
    (failure.passedOn layers message).signal = failure.storeError.cause.signal :=
  (failure.keeps_passedOn layers message).signal

/-- A failed write that a store passes on is judged as what it failed with, under any layers, whether
or not it is exhausted: it can be retried when the first status there is an overload. A service says
the same of what is passed on, though never of the failed write itself. A policy in front of a store
that keeps passing the failure on makes one attempt or all that it allows, by the same verdict. -/
theorem passedOn_judged_as_cause (failure : WriteFailure) (layers : List Layer)
    (message : String) :
    let error := failure.passedOn layers message
    error.signal = failure.storeError.cause.signal ∧
    (error.signal.value = .retryable ↔ ∃ status, failure.storeError.cause.FirstStatus status ∧
      status.code ∈ [.resourceExhausted, .aborted, .deadlineExceeded, .unavailable]) ∧
    (ServiceError.store error).isRetryable.value = error.signal.value.isRetryable ∧
    (ServiceError.writeFailure failure).isRetryable.value = false ∧
    ∀ (σ : Type) (policy : RetryPolicy) (label : String)
      (operation : σ → Step σ (StoreResult Unit)) (state : σ),
      (∀ s, (operation s).value = .error error) →
      let run := policy.run label operation StoreError.signal state
      match error.signal.value with
      | .permanent => run.calls = 1 ∧ run.result = .error (.permanent 1 error)
      | .retryable => run.calls = policy.config.maxAttempts.toNat ∧
          run.result = .error (.exhausted policy.config.maxAttempts error) := by
  intro error
  have signal : error.signal = failure.storeError.cause.signal :=
    failure.signal_passedOn layers message
  refine ⟨signal, ?_, rfl, rfl, fun σ policy label operation state fails => ?_⟩
  · rw [signal, Cause.signal_retryable_iff]
    simp only [StatusCode.isRetryable_iff]
  · exact policy.run_of_same_failure label fails StoreError.signal state

/-- Three attempts at a service that is down are not the last ones: a store passes the failure on, and
the attempts start again. -/
theorem passedOn_of_exhausted_retryable :
    let failure : WriteFailure :=
      { identity := ⟨"CaseDocument", "case-1"⟩
        source := .exhausted 3 (.contention "case" (.ofStatus ⟨.unavailable, "down"⟩ none)) }
    let error := failure.passedOn [.client "write rejected"] "case store failed"
    let operation : Unit → Step Unit (StoreResult Unit) := fun state => ⟨.error error, state, []⟩
    failure.isExhausted = true ∧ error.signal.value ≠ .permanent ∧
      (ServiceError.store error).isRetryable.value = true ∧
      (RetryPolicy.default.run "write" operation StoreError.signal ()).calls = 10 := by
  intro failure error operation
  have always : ∀ state, (operation state).value = .error error := fun _ => rfl
  have runs := RetryPolicy.default.run_of_same_failure "write" always StoreError.signal ()
  exact ⟨rfl, by decide, rfl, runs.1⟩

end WriteFailure

end SteadyStore
