import SteadyStore.Error.Store
import SteadyStore.Fault
import SteadyStore.Retry.Run
/-!
# Failed writes

A write with retries that fails reports what could not be stored and why the run gave up.
It is the only error callers of such a write see.
-/

namespace SteadyStore

/-- A write that failed for good, at once or when the retries ran out. -/
structure WriteFailure where
  identity : Identity
  source : RetryError StoreError

namespace WriteFailure

def isExhausted (e : WriteFailure) : Bool := e.source.isExhausted

/-- The number of calls of the store before it gave up. -/
def attempts (e : WriteFailure) : UInt32 := e.source.attempts

/-- The store's error from the last attempt. -/
def storeError (e : WriteFailure) : StoreError := e.source.inner

/-- The code reported to callers. -/
def fault (_ : WriteFailure) : Fault := .systemError

def text (e : WriteFailure) : String :=
  (if e.isExhausted then "Retries exhausted for storage of " else "Failed to store ") ++
    e.identity.text

def cause (e : WriteFailure) : Cause := (HasCause.cause e.source).wrap e.text

instance : HasCause WriteFailure := ⟨cause⟩

end WriteFailure

end SteadyStore
