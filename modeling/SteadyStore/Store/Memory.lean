import SteadyStore.Store.Basic
/-!
# A store in memory

Documents are kept in one map for each schema. A schema without documents is not kept
(`delete`), so the names of the collections are those of the schemas in use.
-/

namespace SteadyStore

/-- The documents of a schema by their keys. -/
abbrev Collection := NameMap Json

/-- A store that holds its documents in memory. -/
structure MemoryStore where
  collections : NameMap Collection

namespace MemoryStore

def empty : MemoryStore := ⟨.empty⟩

/-- The documents of a schema; a schema that is not kept has none. -/
def collection (s : MemoryStore) (schema : String) : Collection :=
  (s.collections.get? schema).getD .empty

/-- The document at an address. -/
def get? (s : MemoryStore) (doc : Address) : Option Json :=
  (s.collections.get? doc.schema).bind fun collection => collection.get? doc.key

/-- The number of documents in all collections. -/
def size (s : MemoryStore) : Nat :=
  s.collections.values.foldr (fun collection count => collection.size + count) 0

def put (s : MemoryStore) (doc : Address) (value : Json) : MemoryStore :=
  ⟨s.collections.insert doc.schema ((s.collection doc.schema).insert doc.key value)⟩

/-- Removes a document, and its collection with it if that was the last one. -/
def remove (s : MemoryStore) (doc : Address) : MemoryStore :=
  match s.collections.get? doc.schema with
  | none => s
  | some collection =>
    let rest := collection.erase doc.key
    if rest.isEmpty then ⟨s.collections.erase doc.schema⟩
    else ⟨s.collections.insert doc.schema rest⟩

/-- The document holds the text at the end of the path. -/
def holdsAt (path : List String) (value : String) (document : Json) : Bool :=
  match document.at? path with
  | some (.text s) => s = value
  | _ => false

/-- The documents of a schema that hold the text at the end of the path, in the order of
their keys. -/
def findAll (s : MemoryStore) (schema : String) (path : List String) (value : String) :
    List Json :=
  (s.collection schema).values.filter (holdsAt path value)

/-! ## Operations and what they log -/

def memoryEvent (level : Level) (message : String) (fields : List (String × FieldValue)) :
    Event :=
  { level, component := .memory, message, fields }

def docEvent (level : Level) (message : String) (doc : Address) : Event :=
  memoryEvent level message (StoreError.docFields doc)

def store (doc : Address) (value : Json) (s : MemoryStore) :
    Step MemoryStore (StoreResult Unit) :=
  { value := .ok ()
    state := s.put doc value
    events := [docEvent .info "Saving object to document store" doc,
      docEvent .info "Document store save completed" doc] }

def retrieve (doc : Address) (s : MemoryStore) :
    Step MemoryStore (StoreResult (Option Json)) :=
  { value := .ok (s.get? doc)
    state := s
    events := docEvent .info "Fetching object from document store" doc ::
      (if (s.get? doc).isNone then [docEvent .debug "Search didn't find any objects" doc] else []) }

def search (schema : String) (path : List String) (value : String) (s : MemoryStore) :
    Step MemoryStore (StoreResult (List Json)) :=
  if path.isEmpty then
    { value := .error (.invalidFieldPath schema), state := s, events := [] }
  else
    let found := s.findAll schema path value
    { value := .ok found
      state := s
      events := [memoryEvent .debug "Searching document store"
          [("schema", .text schema), ("field_path", .bare (quotedList path)),
           ("value", .text value)],
        memoryEvent .debug "Document store search returning results"
          [("result_size", .count found.length)]] }

def delete (doc : Address) (s : MemoryStore) : Step MemoryStore (StoreResult Unit) :=
  { value := .ok ()
    state := s.remove doc
    events := [docEvent .info "Deleting object from document store" doc,
      docEvent .info "Document store delete completed" doc] }

instance : DataStore MemoryStore where
  store := store
  retrieve := retrieve
  search := search
  delete := delete
  schemas s := s.collections.keys

end MemoryStore

end SteadyStore
