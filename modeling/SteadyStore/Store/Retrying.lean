import SteadyStore.DocumentType
import SteadyStore.Error.WriteFailure
import SteadyStore.Store.Basic
/-!
# A store that retries its writes

Puts a retry policy in front of a store. Writes are retried while the store reports
contention, and a write that fails is reported once (`storeValue`). Reads, searches and
deletes are handed on once, and their errors are returned unchanged.
-/

namespace SteadyStore

/-- A store behind a retry policy. -/
structure RetryingStore (σ : Type) where
  inner : σ
  policy : RetryPolicy

namespace RetryingStore

variable {σ : Type}

def decoratorEvent (level : Level) (message : String) (fields : List (String × FieldValue)) :
    Event :=
  { level, component := .decorator, message, fields }

/-- Puts a policy in front of a store, and reports it. -/
def wrap (inner : σ) (policy : RetryPolicy) : Logged (RetryingStore σ) := do
  Logged.log (decoratorEvent .info "Cloud data store retry configuration"
    [("config", .bare policy.config.text),
     ("worst_case_delay_ms", .count policy.longestWait.millis)])
  return { inner, policy }

/-! ## Writes -/

/-- The report of a write that failed. -/
def failureEvent (doc : Address) (failure : WriteFailure) : Event :=
  decoratorEvent .error
    (if failure.isExhausted then "Retries exhausted for storage" else "Failed to store object")
    (StoreError.docFields doc ++
      [("identity", .bare failure.identity.text),
       ("attempts", .count failure.attempts.toNat),
       ("error_chain", .bare (chainText failure))])

variable [DataStore σ]

/-- The calls of the store for one write, by the rules of the policy. -/
def attempt (doc : Address) (value : Json) (s : RetryingStore σ) :
    Run σ (Except (RetryError StoreError) Unit) :=
  s.policy.run "storeObject" (DataStore.store doc value) StoreError.signal s.inner

/-- Writes a document, and tries again while the store reports contention. -/
def storeValue (doc : Address) (value : Json) (identity : Identity)
    (s : RetryingStore σ) : Run (RetryingStore σ) (Except WriteFailure Unit) :=
  let run := s.attempt doc value
  let after := { s with inner := run.state }
  match run.result with
  | .ok () => { result := .ok (), state := after, trace := run.trace }
  | .error source =>
    let failure : WriteFailure := { identity, source }
    { result := .error failure
      state := after
      trace := run.trace ++ [.note (failureEvent doc failure)] }

/-- Writes a value of some type. One that becomes no document fails without a call of the
store. -/
def storeAs {α : Type} (type : DocumentType α) (doc : Address) (value : α) (id : String)
    (s : RetryingStore σ) : Run (RetryingStore σ) (Except WriteFailure Unit) :=
  let identity := Identity.ofTypeName type.name id
  match type.write value with
  | .ok document => s.storeValue doc document identity
  | .error e =>
    let failure : WriteFailure := { identity, source := .permanent 0 (.conversion e) }
    { result := .error failure, state := s, trace := [.note (failureEvent doc failure)] }

/-! ## Everything else -/

/-- What an operation of the wrapped store gives, with the policy kept. -/
def handOn {α : Type} (s : RetryingStore σ) (step : Step σ α) : Step (RetryingStore σ) α :=
  { value := step.value, state := { s with inner := step.state }, events := step.events }

section Conversion
variable {α : Type} (read : DocumentReader α)

/-- Reads a document as a value. -/
def convert (document : Json) : StoreResult α := (read document).mapError .conversion

/-- Reads documents in order, up to the first that is no value. -/
def convertAll : List Json → StoreResult (List α)
  | [] => .ok []
  | document :: documents => do
    let value ← convert read document
    let values ← convertAll documents
    .ok (value :: values)

/-- The document at an address as a value, if there is one. -/
def retrieve (doc : Address) (s : RetryingStore σ) :
    Step (RetryingStore σ) (StoreResult (Option α)) :=
  let step := s.handOn (DataStore.retrieve doc s.inner)
  { step with
    value := do
      match ← step.value with
      | none => .ok none
      | some document => (convert read document).map some }

/-- The documents of a schema that hold a text at the end of a path of fields, as values. -/
def search (schema : String) (path : List String) (value : String) (s : RetryingStore σ) :
    Step (RetryingStore σ) (StoreResult (List α)) :=
  let step := s.handOn (DataStore.search schema path value s.inner)
  { step with value := do convertAll read (← step.value) }

end Conversion

/-- The document at an address as a value of a shape, if there is one. -/
def retrieveAs (shape : Shape) (doc : Address) (s : RetryingStore σ) :
    Step (RetryingStore σ) (StoreResult (Option Json)) :=
  s.retrieve shape.reader doc

/-- The documents of a schema that hold a text at the end of a path of fields, as values of
a shape. -/
def searchAs (shape : Shape) (schema : String) (path : List String) (value : String)
    (s : RetryingStore σ) : Step (RetryingStore σ) (StoreResult (List Json)) :=
  s.search shape.reader schema path value

/-- Deletes a document. -/
def delete (doc : Address) (s : RetryingStore σ) :
    Step (RetryingStore σ) (StoreResult Unit) :=
  s.handOn (DataStore.delete doc s.inner)

/-- The names of the schemas with documents, in ascending order. -/
def schemas (s : RetryingStore σ) : List String := DataStore.schemas s.inner

end RetryingStore

end SteadyStore
