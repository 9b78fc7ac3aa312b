import SteadyStore.Error.WriteFailure
/-!
# Errors of services

The error type of everything a service does. Errors of the store and failed writes show
themselves unchanged (`ServiceError.cause`), so wrapping adds no link to their chains.
-/

namespace SteadyStore

inductive ServiceError
  | store (e : StoreError)
  | writeFailure (e : WriteFailure)
  | conversion (e : ConversionError)
  /-- A configuration is missing or invalid. -/
  | config (message : String)

namespace ServiceError

def cause : ServiceError → Cause
  | .store e => e.cause
  | .writeFailure e => e.cause
  | .conversion e => (HasCause.cause e).wrap ("Serialization error: " ++ e.message)
  | .config message => .ofText ("Configuration error: " ++ message)

instance : HasCause ServiceError := ⟨cause⟩

/-- The code reported to callers: every failure is one of the system. -/
def fault : ServiceError → Fault
  | .writeFailure e => e.fault
  | _ => .systemError

/-- Only contention can be retried. A write that already went through retries is final. -/
def isRetryable : ServiceError → Logged Bool
  | .store e => do return (← e.signal).isRetryable
  | _ => return false

end ServiceError

end SteadyStore
