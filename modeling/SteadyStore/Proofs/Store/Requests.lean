import Mathlib.Algebra.GroupWithZero.Nat
import Mathlib.Logic.Function.Basic
import SteadyStore.Proofs.Store.Memory
import SteadyStore.Store.Retrying
/-!
# Serving requests

A store behind a retry policy serves requests one after the other (`served`). A write calls it as
often as its run does (`serve_write`), and everything else calls it once (`calls_serve`). So there
are as many calls as requests of an operation other than writing (`callsOf_of_ne_write`). What is
read after some changes is what they left at each address, in order (`get?_changed`).
-/

namespace SteadyStore

/-! ## Requests -/

/-- What a store can be asked for. -/
inductive Operation
  | write | retrieve | search | delete | schemas
deriving DecidableEq

/-- A change of the documents of a store. -/
inductive Change
  | put (doc : Address) (value : Json)
  | remove (doc : Address)

namespace Change

def apply (documents : MemoryStore) : Change → MemoryStore
  | .put doc value => documents.put doc value
  | .remove doc => documents.remove doc

/-- What is held at each address after a change: only its own address is affected. -/
def update (held : Address → Option Json) : Change → Address → Option Json
  | .put doc value => Function.update held doc (some value)
  | .remove doc => Function.update held doc none

theorem get?_apply (documents : MemoryStore) (change : Change) :
    (change.apply documents).get? = change.update documents.get? := by
  funext other
  cases change with
  | put doc value =>
    exact (documents.get?_put doc other value).trans
      (Function.update_apply documents.get? doc (some value) other).symm
  | remove doc =>
    exact (documents.get?_remove doc other).trans
      (Function.update_apply documents.get? doc none other).symm

theorem get?_changed (documents : MemoryStore) (changes : List Change) :
    (changes.foldl apply documents).get? = changes.foldl update documents.get? := by
  induction changes generalizing documents with
  | nil => rfl
  | cons change changes ih => rw [List.foldl_cons, List.foldl_cons, ih, get?_apply]

end Change

/-- A request to a store behind a retry policy. -/
inductive Request
  | write (doc : Address) (value : Json) (identity : Identity)
  | writeAs {α : Type} (type : DocumentType α) (doc : Address) (value : α) (id : String)
  | retrieve {α : Type} (read : DocumentReader α) (doc : Address)
  | search {α : Type} (read : DocumentReader α) (schema : String) (path : List String)
      (value : String)
  | delete (doc : Address)
  | schemas

namespace Request

def operation : Request → Operation
  | .write .. | .writeAs .. => .write
  | .retrieve .. => .retrieve
  | .search .. => .search
  | .delete _ => .delete
  | .schemas => .schemas

/-- The change that is asked for. There is none if a value becomes no document. -/
def change? : Request → Option Change
  | .write doc value _ => some (.put doc value)
  | .writeAs type doc value _ => (type.write value).toOption.map (.put doc)
  | .delete doc => some (.remove doc)
  | _ => none

end Request

inductive Reply
  | written (result : Except WriteFailure Unit)
  | retrieved {α : Type} (result : StoreResult (Option α))
  | found {α : Type} (result : StoreResult (List α))
  | deleted (result : StoreResult Unit)
  | schemas (names : List String)

/-- The error that a read, search or deletion is answered with. -/
def Reply.error? : Reply → Option StoreError
  | .retrieved (.error e) | .found (.error e) | .deleted (.error e) => some e
  | _ => none

/-- A request with its reply, the number of calls that the store behind the policy got for it, and
the state it left. -/
structure Served (σ : Type) where
  request : Request
  reply : Reply
  calls : Nat
  state : RetryingStore σ

/-- What changed: a write counts if it succeeded, and a deletion unless it is made to fail. -/
def Served.changes {σ : Type} (failing : Bool) (served : Served σ) : List Change :=
  match served.reply with
  | .written (.ok ()) => served.request.change?.toList
  | .deleted _ => if failing then [] else served.request.change?.toList
  | _ => []

/-- The calls of one operation for some requests. -/
def Served.callsOf {σ : Type} (operation : Operation) (served : List (Served σ)) : Nat :=
  ((served.filter (·.request.operation = operation)).map Served.calls).sum

namespace RetryingStore

section Serve
variable {σ : Type} [DataStore σ]

def serve (s : RetryingStore σ) (request : Request) : Served σ :=
  match request with
  | .write doc value identity =>
    let run := s.storeValue doc value identity
    ⟨request, .written run.result, run.calls, run.state⟩
  | .writeAs type doc value id =>
    let run := s.storeAs type doc value id
    ⟨request, .written run.result, run.calls, run.state⟩
  | .retrieve read doc =>
    let step := s.retrieve read doc
    ⟨request, .retrieved step.value, 1, step.state⟩
  | .search read schema path value =>
    let step := s.search read schema path value
    ⟨request, .found step.value, 1, step.state⟩
  | .delete doc =>
    let step := s.delete doc
    ⟨request, .deleted step.value, 1, step.state⟩
  | .schemas => ⟨request, .schemas s.schemas, 1, s⟩

/-- The requests in order, each served in the state that the one before it left. -/
def served (s : RetryingStore σ) : List Request → List (Served σ)
  | [] => []
  | request :: requests => s.serve request :: (s.serve request).state.served requests

/-- The state after some requests. -/
def after (s : RetryingStore σ) (requests : List Request) : RetryingStore σ :=
  requests.foldl (fun s request => (s.serve request).state) s

variable (s : RetryingStore σ) {request : Request}

theorem request_serve (request : Request) : (s.serve request).request = request := by
  cases request <;> rfl

theorem calls_serve (read : request.operation ≠ .write) : (s.serve request).calls = 1 := by
  cases request with
  | write | writeAs => exact absurd rfl read
  | _ => rfl

/-- A write of a value that becomes no document fails without a call. Any other writes its
document. -/
theorem serve_write (write : request.operation = .write) :
    (∃ failure : WriteFailure, request.change? = none ∧ failure.attempts = 0 ∧
      s.serve request = ⟨request, .written (.error failure), 0, s⟩) ∨
    ∃ doc value identity, request.change? = some (.put doc value) ∧
      let run := s.storeValue doc value identity
      s.serve request = ⟨request, .written run.result, run.calls, run.state⟩ := by
  cases request with
  | write doc value identity => exact .inr ⟨doc, value, identity, rfl, rfl⟩
  | writeAs type doc value id =>
    cases written : type.write value with
    | error e =>
      refine .inl ⟨⟨.ofTypeName type.name id, .permanent 0 (.conversion e)⟩, ?_, rfl, ?_⟩
      · simp only [Request.change?, written, Except.toOption, Option.map_none]
      · simp only [serve, storeAs, written]
        rfl
    | ok document =>
      refine .inr ⟨doc, document, .ofTypeName type.name id, ?_, ?_⟩
      · simp only [Request.change?, written, Except.toOption, Option.map_some]
      · simp only [serve, storeAs, written]
  | _ => cases write

/-! ## Counting calls -/

theorem callsOf_cons (operation : Operation) (request : Request) (requests : List Request) :
    Served.callsOf operation (s.served (request :: requests)) =
      (if operation = request.operation then (s.serve request).calls else 0) +
        Served.callsOf operation ((s.serve request).state.served requests) := by
  unfold Served.callsOf
  rw [served, List.filter_cons, request_serve]
  by_cases same : operation = request.operation <;> simp [same, eq_comm]

theorem callsOf_of_ne_write {operation : Operation} (read : operation ≠ .write)
    (requests : List Request) :
    Served.callsOf operation (s.served requests) =
      requests.countP (·.operation = operation) := by
  induction requests generalizing s with
  | nil => rfl
  | cons request requests ih =>
    rw [callsOf_cons, ih, List.countP_cons, Nat.add_comm]
    by_cases same : operation = request.operation
    · simp [same, s.calls_serve (same ▸ read)]
    · simp [same, eq_comm]

end Serve

end RetryingStore

end SteadyStore
