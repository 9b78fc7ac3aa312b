import SteadyStore.Text.Quoted
/-!
# Statuses of the document service

The service answers a failed call with a status: a code and a description. Four
codes say that it is overloaded (`StatusCode.isRetryable`).
-/

namespace SteadyStore

inductive StatusCode
  | ok | cancelled | unknown | invalidArgument | deadlineExceeded | notFound | alreadyExists
  | permissionDenied | resourceExhausted | failedPrecondition | aborted | outOfRange
  | unimplemented | internal | unavailable | dataLoss | unauthenticated
deriving DecidableEq, Repr

namespace StatusCode

/-- The codes in the order of their numbers. -/
def all : List StatusCode :=
  [.ok, .cancelled, .unknown, .invalidArgument, .deadlineExceeded, .notFound, .alreadyExists,
   .permissionDenied, .resourceExhausted, .failedPrecondition, .aborted, .outOfRange,
   .unimplemented, .internal, .unavailable, .dataLoss, .unauthenticated]

/-- The code with a number; other numbers mean an unknown failure. -/
def ofInt (n : Int) : StatusCode :=
  if n < 0 then .unknown else all.getD n.toNat .unknown

def name : StatusCode → String
  | .ok => "Ok"
  | .cancelled => "Cancelled"
  | .unknown => "Unknown"
  | .invalidArgument => "InvalidArgument"
  | .deadlineExceeded => "DeadlineExceeded"
  | .notFound => "NotFound"
  | .alreadyExists => "AlreadyExists"
  | .permissionDenied => "PermissionDenied"
  | .resourceExhausted => "ResourceExhausted"
  | .failedPrecondition => "FailedPrecondition"
  | .aborted => "Aborted"
  | .outOfRange => "OutOfRange"
  | .unimplemented => "Unimplemented"
  | .internal => "Internal"
  | .unavailable => "Unavailable"
  | .dataLoss => "DataLoss"
  | .unauthenticated => "Unauthenticated"

/-- The code reports contention or overload, so the call may succeed later. -/
def isRetryable : StatusCode → Bool
  | .resourceExhausted | .aborted | .deadlineExceeded | .unavailable => true
  | _ => false

theorem isRetryable_iff (code : StatusCode) :
    code.isRetryable = true ↔
      code ∈ [resourceExhausted, aborted, deadlineExceeded, unavailable] := by
  cases code <;> decide

end StatusCode

/-- A status: a code and a description. -/
structure Status where
  code : StatusCode
  message : String
deriving DecidableEq, Repr

/-- The status of a code described by its own name. -/
def Status.ofCode (code : StatusCode) : Status := ⟨code, code.name⟩

def Status.text (status : Status) : String :=
  "status: " ++ status.code.name ++ ", message: " ++ quoted status.message ++
    ", details: [], metadata: MetadataMap \x7b headers: \x7b\x7d \x7d"

end SteadyStore
