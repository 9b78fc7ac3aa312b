/-!
# Fault codes

The codes under which services report failures to their callers.
-/

namespace SteadyStore

inductive Fault
  | systemError | resourceNotFound | resourceVersionConflict | accessDenied | badRequest
  | validationFailed | tooManyRequests | acceptedUnableToProcess
deriving DecidableEq, Repr

/-- The code as it is sent to callers. -/
def Fault.code : Fault → String
  | .systemError => "SYSTEM_ERROR"
  | .resourceNotFound => "RESOURCE_NOT_FOUND"
  | .resourceVersionConflict => "RESOURCE_VERSION_CONFLICT"
  | .accessDenied => "ACCESS_DENIED"
  | .badRequest => "BAD_REQUEST"
  | .validationFailed => "VALIDATION_FAILED"
  | .tooManyRequests => "TOO_MANY_REQUESTS"
  | .acceptedUnableToProcess => "ACCEPTED_UNABLE_TO_PROCESS"

end SteadyStore
