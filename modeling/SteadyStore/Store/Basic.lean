import SteadyStore.Error.Store
/-!
# Document stores

What every document store offers. Documents are schema-less and live at addresses; the
conversion of documents to values is left to the caller.
-/

namespace SteadyStore

/-- The result of an operation of a store. -/
abbrev StoreResult (α : Type) := Except StoreError α

/-- A document store with states `σ`. -/
class DataStore (σ : Type) where
  /-- Writes a document, in place of one that lives there. -/
  store : Address → Json → σ → Step σ (StoreResult Unit)
  /-- The document at an address, if there is one. -/
  retrieve : Address → σ → Step σ (StoreResult (Option Json))
  /-- The documents of a schema that hold a text at the end of a path of fields. -/
  search : String → List String → String → σ → Step σ (StoreResult (List Json))
  /-- Deletes a document. It is no error if there is none. -/
  delete : Address → σ → Step σ (StoreResult Unit)
  /-- The names of the schemas with documents, in ascending order. -/
  schemas : σ → List String

/-! ## Lookups by query -/

def tooManyResultsEvent (doc : Address) (count : Nat) : Event :=
  { level := .error
    component := .lookup
    message := "Document store found more than one result object"
    fields := StoreError.docFields doc ++ [("results", .count count)] }

/-- The one document that a query for a key found, if any. More than one is an error. -/
def onlyDocument (doc : Address) (documents : List Json) :
    Logged (StoreResult (Option Json)) :=
  match documents with
  | [] => return .ok none
  | [document] => return .ok (some document)
  | _ => do
    Logged.log (tooManyResultsEvent doc documents.length)
    return .error (.multipleResults doc documents.length)

end SteadyStore
