import SteadyStore.Error.Service
/-!
# The verdict on a failed write

There are five ways to ask whether a failed write can be retried: the variant of the store's
error, its own signal, its chain, and the same two once a service has wrapped it. All five
agree with the verdict on what the write failed with (`ofFailedWrite_hasVerdict`), and they
still do when the error is translated again by stores that are built on other stores
(`translated_hasVerdict`).
-/

namespace SteadyStore

namespace Cause

theorem signal_ofStatus (status : Status) (cause? : Option Cause) :
    (ofStatus status cause?).signal.value =
      if status.code.isRetryable then .retryable else .permanent := by
  rw [signal, links, ofStatus, signalOfLinks]
  dsimp only [Link.status?]
  split <;> rfl

end Cause

namespace StoreError

/-- Every way to ask for the verdict on an error of a store gives this one. -/
structure HasVerdict (e : StoreError) (verdict : Signal) : Prop where
  isContention_iff : e.isContention = true ↔ verdict = .retryable
  signal : e.signal.value = verdict
  chain : e.cause.signal.value = verdict
  service : (ServiceError.store e).isRetryable.value = verdict.isRetryable
  serviceChain : (ServiceError.store e).cause.signal.value = verdict

theorem hasVerdict_contention (schema : String) {source : Cause}
    (h : source.signal.value = .retryable) : (contention schema source).HasVerdict .retryable where
  isContention_iff := ⟨fun _ => rfl, fun _ => rfl⟩
  signal := rfl
  chain := h
  service := rfl
  serviceChain := h

theorem hasVerdict_failed (message : String) {source : Cause}
    (h : source.signal.value = .permanent) :
    (failed message (some source)).HasVerdict .permanent where
  isContention_iff := by simp [isContention]
  signal := h
  chain := h
  service := congrArg Signal.isRetryable h
  serviceChain := h

/-! ## Translating a failed write -/

theorem ofFailedWrite_of_retryable (doc : Address) {source : Cause}
    (h : source.signal.value = .retryable) :
    (ofFailedWrite doc source).value = .contention doc.schema source := by
  simp only [ofFailedWrite, Logged.value_bind, h, Logged.value_pure]

theorem ofFailedWrite_of_permanent (doc : Address) {source : Cause}
    (h : source.signal.value = .permanent) :
    (ofFailedWrite doc source).value =
      .failed ("Failed to create object in document store. Schema: " ++ doc.schema ++
        " with key " ++ doc.key) (some source) := by
  simp only [ofFailedWrite, Logged.value_bind, h, Logged.value_pure]

/-- The error for a failed write has the verdict on what the write failed with. -/
theorem ofFailedWrite_hasVerdict (doc : Address) (source : Cause) :
    (ofFailedWrite doc source).value.HasVerdict source.signal.value := by
  cases h : source.signal.value with
  | retryable =>
    rw [ofFailedWrite_of_retryable doc h]
    exact hasVerdict_contention _ h
  | permanent =>
    rw [ofFailedWrite_of_permanent doc h]
    exact hasVerdict_failed _ h

/-- What an error becomes on its way out of stores that are built on one another: the innermost
takes it for a failed write of its document, and each of the others takes the error of the one
below for a failed write of its own. -/
def translated (source : Cause) (innermost : Address) : List Address → StoreError
  | [] => (ofFailedWrite innermost source).value
  | doc :: docs => translated (ofFailedWrite innermost source).value.cause doc docs

/-- Whatever a write fails with, and through however many stores the failure is passed on, the
verdict at every level is the one on the first failure. -/
theorem translated_hasVerdict {ε : Type} [HasCause ε] (e : ε) (innermost : Address)
    (outer : List Address) :
    (translated (HasCause.cause e) innermost outer).HasVerdict
      (HasCause.cause e).signal.value := by
  generalize HasCause.cause e = source
  -- The failure varies: what one store makes of it is what the next one fails with.
  induction outer generalizing source innermost with
  | nil => exact ofFailedWrite_hasVerdict innermost source
  | cons doc docs ih =>
    rw [translated, ← (ofFailedWrite_hasVerdict innermost source).chain]
    exact ih doc _

end StoreError

end SteadyStore
