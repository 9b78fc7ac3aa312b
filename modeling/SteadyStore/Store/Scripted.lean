import SteadyStore.Script
import SteadyStore.Store.Memory
/-!
# A store that follows a script

Each write plays the next outcome of a script, and successful writes land in a store in
memory. The store counts the calls it gets. Reads, searches and deletes can be made to
fail, and lookups to report every hit twice.
-/

namespace SteadyStore

/-- What happens to a write. -/
inductive WriteOutcome
  | succeed
  /-- The store reports contention. -/
  | contention
  /-- The service answers with a status. -/
  | status (code : StatusCode)
  /-- The write fails for good, without a status. -/
  | fail (message : String)
deriving DecidableEq, Repr

/-- The next attempt may succeed where this one did not. -/
def WriteOutcome.isTransient : WriteOutcome → Bool
  | .contention => true
  | .status code => code.isRetryable
  | _ => false

structure ScriptedStore where
  documents : MemoryStore
  script : Script WriteOutcome
  failingReads : Bool
  duplicateResults : Bool
  storeCalls : UInt32
  retrieveCalls : UInt32
  searchCalls : UInt32
  deleteCalls : UInt32

namespace ScriptedStore

/-- A store without documents that was not called yet. -/
def ofScript (script : Script WriteOutcome) (failingReads duplicateResults : Bool) :
    ScriptedStore :=
  { documents := .empty, script, failingReads, duplicateResults
    storeCalls := 0, retrieveCalls := 0, searchCalls := 0, deleteCalls := 0 }

/-- The error of a read, search or delete that was made to fail. -/
def readFailure (operation : String) : StoreError :=
  .failed ("Failed to " ++ operation ++ " in document store") (some (.ofFailedWrite .unavailable))

/-- The status of a store that reports contention itself. -/
def contentionStatus : Status := ⟨.resourceExhausted, "Too much contention on these documents"⟩

/-- The state once a write was counted and its outcome taken from the script. -/
def afterWrite (s : ScriptedStore) : ScriptedStore :=
  { s with storeCalls := s.storeCalls + 1, script := s.script.advance }

def store (doc : Address) (value : Json) (s : ScriptedStore) :
    Step ScriptedStore (StoreResult Unit) :=
  match s.script.current with
  | .succeed =>
    let written := s.documents.store doc value
    { written with state := { s.afterWrite with documents := written.state } }
  | .contention =>
    { value := .error (.contention doc.schema (.ofStatus contentionStatus none))
      state := s.afterWrite
      events := [] }
  | .status code =>
    let failure := StoreError.ofFailedWrite doc (.ofFailedWrite code)
    { value := .error failure.value, state := s.afterWrite, events := failure.events }
  | .fail message =>
    { value := .error (.failed message none), state := s.afterWrite, events := [] }

def retrieve (doc : Address) (s : ScriptedStore) :
    Step ScriptedStore (StoreResult (Option Json)) :=
  let called := { s with retrieveCalls := s.retrieveCalls + 1 }
  if s.failingReads then
    { value := .error (readFailure "retrieve object"), state := called, events := [] }
  else
    let read := s.documents.retrieve doc
    if s.duplicateResults then
      let hits := (s.documents.get? doc).toList.flatMap fun document => [document, document]
      let result := onlyDocument doc hits
      { value := result.value, state := called, events := read.events ++ result.events }
    else { read with state := called }

def search (schema : String) (path : List String) (value : String) (s : ScriptedStore) :
    Step ScriptedStore (StoreResult (List Json)) :=
  let called := { s with searchCalls := s.searchCalls + 1 }
  if s.failingReads then
    { value := .error (readFailure "search schema"), state := called, events := [] }
  else { s.documents.search schema path value with state := called }

def delete (doc : Address) (s : ScriptedStore) : Step ScriptedStore (StoreResult Unit) :=
  let called := { s with deleteCalls := s.deleteCalls + 1 }
  if s.failingReads then
    { value := .error (readFailure "delete object"), state := called, events := [] }
  else
    let deleted := s.documents.delete doc
    { deleted with state := { called with documents := deleted.state } }

instance : DataStore ScriptedStore where
  store := store
  retrieve := retrieve
  search := search
  delete := delete
  schemas s := DataStore.schemas s.documents

end ScriptedStore

end SteadyStore
