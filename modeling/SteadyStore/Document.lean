import SteadyStore.TypeName
/-!
# Naming documents

A document lives at an address: a schema (its collection) and a key in it
(`Address`). Operations carry an identity for logs and error messages, which
has no effect on where a document is written (`Identity`).
-/

namespace SteadyStore

/-- Where a document lives. -/
structure Address where
  schema : String
  key : String
deriving DecidableEq, Repr

/-- The address as text. Different addresses can have the same text. -/
def Address.text (doc : Address) : String := doc.schema ++ "/" ++ doc.key

/-- What an operation writes, for people: a type descriptor and an id. -/
structure Identity where
  descriptor : String
  id : String
deriving DecidableEq, Repr

namespace Identity

/-- The identity of a value whose type has the given full name. -/
def ofTypeName (full id : String) : Identity := ⟨TypeName.ofText full, id⟩

def text (identity : Identity) : String := identity.descriptor ++ ": " ++ identity.id

end Identity

end SteadyStore
