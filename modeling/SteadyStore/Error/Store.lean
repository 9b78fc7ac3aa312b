import SteadyStore.Document
import SteadyStore.Error.Conversion
/-!
# Errors of a document store

A store reports contention, some other failure, a lookup that found too much, a search
that cannot be made, or a document that cannot be converted. Contention can be retried;
what other errors can is read off their causes (`StoreError.signal`).
-/

namespace SteadyStore

/-- What a document store reports. -/
inductive StoreError
  /-- The store is overloaded; the write may succeed later. -/
  | contention (schema : String) (source : Cause)
  | failed (message : String) (source? : Option Cause)
  /-- A lookup by key found more than one document. -/
  | multipleResults (doc : Address) (count : Nat)
  /-- A search with an empty field path. -/
  | invalidFieldPath (schema : String)
  | conversion (e : ConversionError)

namespace StoreError

def text : StoreError → String
  | .contention schema _ => "Document store contention on schema '" ++ schema ++ "'"
  | .failed message _ => message
  | .multipleResults doc count =>
    "Document store returned " ++ toString count ++ " results for schema '" ++ doc.schema ++
      "' with key '" ++ doc.key ++ "'"
  | .invalidFieldPath schema =>
    "Invalid search on schema '" ++ schema ++ "': field path must not be empty"
  | .conversion e => "Failed to convert document: " ++ e.message

/-- The error, on top of what the store reported. -/
def cause (e : StoreError) : Cause :=
  match e with
  | .contention _ source => source.wrap e.text
  | .failed _ source? => .wrapOver e.text source?
  | .conversion inner => (HasCause.cause inner).wrap e.text
  | _ => .ofText e.text

instance : HasCause StoreError := ⟨cause⟩

def isContention : StoreError → Bool
  | .contention _ _ => true
  | _ => false

/-- Contention can always be retried. Other errors are classified by their causes, which
catches an overload that was passed on as some other failure. -/
def signal (e : StoreError) : Logged Signal :=
  if e.isContention then pure .retryable else e.cause.signal

/-! ## Failed writes -/

/-- The fields that name a document. -/
def docFields (doc : Address) : List (String × FieldValue) :=
  [("schema", .bare doc.schema), ("key", .bare doc.key)]

def writeFailedEvent (doc : Address) (source : Cause) : Event :=
  { level := .error
    component := .storeErrors
    message := "Failed to create object in document store"
    fields := docFields doc ++ [("error_chain", .bare source.describe)] }

def contentionEvent (doc : Address) : Event :=
  { level := .info
    component := .storeErrors
    message := "Document store contention detected"
    fields := docFields doc }

/-- The error for a failed write. An overload anywhere in the causes is contention; the
verdict on the causes decides. -/
def ofFailedWrite (doc : Address) (source : Cause) : Logged StoreError := do
  Logged.log (writeFailedEvent doc source)
  match ← source.signal with
  | .retryable =>
    Logged.log (contentionEvent doc)
    return .contention doc.schema source
  | .permanent =>
    return .failed ("Failed to create object in document store. Schema: " ++ doc.schema ++
      " with key " ++ doc.key) (some source)

end StoreError

end SteadyStore
