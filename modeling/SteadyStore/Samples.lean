import SteadyStore.DocumentType
import SteadyStore.Retry.Policy
/-!
# Samples

Documents and policies to try a store with: cases with the contact of a respondent, and
policies with short delays.
-/

namespace SteadyStore.Samples

/-- The schema of samples for which the schema does not matter. -/
def schema : String := "TEST_SCHEMA"

/-! ## Cases -/

/-- Whom a case is about. -/
structure Contact where
  forename : String
  surname : String
deriving DecidableEq, Repr

/-- A case. Its id is also its key. -/
structure Case where
  id : String
  contact : Contact
  createdAt : String
deriving DecidableEq, Repr

def Contact.shape : Shape :=
  .record "ContactDetails" [("forename", .text), ("surname", .text)]

def Case.shape : Shape :=
  .record "CaseDocument"
    [("id", .uuid), ("contact", Contact.shape), ("createdAt", .timestamp)]

def Contact.document (contact : Contact) : Json :=
  Json.object [("forename", .text contact.forename), ("surname", .text contact.surname)]

/-- The key of the document of a case. -/
def Case.key (case : Case) : String := case.id

/-- The contact of a case that needs no particular one. -/
def contact : Contact := { forename := "Ada", surname := "Lovelace" }

/-- Contacts with one surname, numbered from zero. -/
def contacts (surname : String) (count : Nat) : List Contact :=
  (List.range count).map fun i => { forename := "respondent-" ++ toString i, surname }

/-! ## Policies -/

/-- Delays that double from 10 to 100 milliseconds. -/
def fastConfig (maxAttempts : UInt32) : RetryConfig :=
  { initialDelay := .ofMillis 10
    multiplier := .ofNat 2
    maxDelay := .ofMillis 100
    maxAttempts }

/-- What is said when a policy that was taken to be valid is not. -/
def unusablePolicyText (fault : RetryConfig.Fault) : String :=
  "test policy is valid: Config(" ++ quoted fault.message ++ ")"

end SteadyStore.Samples
