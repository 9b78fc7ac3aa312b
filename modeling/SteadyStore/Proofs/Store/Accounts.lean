import SteadyStore.Proofs.Store.Collections
import SteadyStore.Proofs.Store.Requests
import SteadyStore.Proofs.Store.ScriptedWrite
/-!
# Accounts of a scripted store

A store that follows a script serves requests through a retry policy. Every request is accounted for
(`state_serve`): a write takes as many outcomes from the script as it makes calls, and everything
else is one call and takes none. So after any requests the counters, the script and the document at
each address are known, and with them what the next request gets (`after_accounted`).
-/

namespace SteadyStore

/-! ## Calls of a scripted store -/

namespace ScriptedStore

/-- The state once the operations were called so often and made these changes. -/
def charged (s : ScriptedStore) (calls : Operation → Nat) (changes : List Change) :
    ScriptedStore :=
  { s with
    documents := changes.foldl Change.apply s.documents
    script := s.script.drop (calls .write)
    storeCalls := s.storeCalls + UInt32.ofNat (calls .write)
    retrieveCalls := s.retrieveCalls + UInt32.ofNat (calls .retrieve)
    searchCalls := s.searchCalls + UInt32.ofNat (calls .search)
    deleteCalls := s.deleteCalls + UInt32.ofNat (calls .delete) }

/-- Calls of one operation. -/
def only (operation : Operation) (n : Nat) : Operation → Nat :=
  fun other => if other = operation then n else 0

variable (s : ScriptedStore)

/-- There is no counter for the names of the schemas. -/
theorem charged_eq_self {calls : Operation → Nat}
    (uncounted : ∀ operation ≠ .schemas, calls operation = 0) : s.charged calls [] = s := by
  simp [charged, uncounted, Script.drop]

theorem charged_charged (first next : Operation → Nat) (before after : List Change) :
    (s.charged first before).charged next after =
      s.charged (fun operation => first operation + next operation) (before ++ after) := by
  simp only [charged, Script.drop_drop, UInt32.ofNat_add, UInt32.add_assoc, List.foldl_append]

theorem charged_writes (n : Nat) (changes : List Change) :
    s.charged (only .write n) changes =
      { s.afterWrites n with documents := changes.foldl Change.apply s.documents } := by
  simp [charged, only, afterWrites]

theorem state_retrieve (doc : Address) :
    (retrieve doc s).state = s.charged (only .retrieve 1) [] := by
  have counted : (retrieve doc s).state = { s with retrieveCalls := s.retrieveCalls + 1 } := by
    simp only [retrieve]
    split
    · rfl
    · split <;> rfl
  simp [counted, charged, only, Script.drop]

theorem state_search (schema : String) (path : List String) (value : String) :
    (search schema path value s).state = s.charged (only .search 1) [] := by
  have counted : (search schema path value s).state =
      { s with searchCalls := s.searchCalls + 1 } := by
    simp only [search]
    split <;> rfl
  simp [counted, charged, only, Script.drop]

theorem state_delete (doc : Address) :
    (delete doc s).state =
      s.charged (only .delete 1) (if s.failingReads then [] else [.remove doc]) := by
  cases failing : s.failingReads <;>
    simp [delete, failing, MemoryStore.delete, Change.apply, charged, only, Script.drop]

/-! ### Calls with a fixed answer -/

section Answers
variable {s}

theorem retrieve_of_failing (failing : s.failingReads = true) (doc : Address) :
    retrieve doc s =
      { value := .error (readFailure "retrieve object")
        state := { s with retrieveCalls := s.retrieveCalls + 1 }
        events := [] } := by
  simp only [retrieve, failing, if_true]

theorem search_of_failing (failing : s.failingReads = true) (schema : String)
    (path : List String) (value : String) :
    search schema path value s =
      { value := .error (readFailure "search schema")
        state := { s with searchCalls := s.searchCalls + 1 }
        events := [] } := by
  simp only [search, failing, if_true]

theorem delete_of_failing (failing : s.failingReads = true) (doc : Address) :
    delete doc s =
      { value := .error (readFailure "delete object")
        state := { s with deleteCalls := s.deleteCalls + 1 }
        events := [] } := by
  simp only [delete, failing, if_true]

theorem retrieve_of_single (answering : s.failingReads = false)
    (once : s.duplicateResults = false) (doc : Address) :
    (retrieve doc s).value = .ok (s.documents.get? doc) := by
  simp only [retrieve, answering, once]
  rfl

/-- Every hit of a lookup is there twice, which is once too often. -/
theorem retrieve_of_duplicate (answering : s.failingReads = false)
    (twice : s.duplicateResults = true) (doc : Address) :
    (retrieve doc s).value =
      if (s.documents.get? doc).isSome then .error (.multipleResults doc 2) else .ok none := by
  simp only [retrieve, answering, twice, if_true]
  cases s.documents.get? doc <;> rfl

end Answers

end ScriptedStore

namespace RetryingStore

variable (s : RetryingStore ScriptedStore) {request : Request}

/-! ## One request -/

/-- A write is charged the calls of its run. It puts its document in the last one, or nowhere. -/
theorem state_serve_write (write : request.operation = .write) :
    let served := s.serve request
    let changes := served.changes s.inner.failingReads
    served.state =
      { s with inner := s.inner.charged (ScriptedStore.only .write served.calls) changes } := by
  intro served changes
  rw [ScriptedStore.charged_writes]
  rcases s.serve_write write with ⟨failure, -, -, whole⟩ | ⟨doc, value, identity, asked, whole⟩
  · rw [show changes = _ from congrArg (Served.changes _) whole, show served = _ from whole]
    exact congrArg (fun inner => { s with inner }) s.inner.afterWrites_zero.symm
  · obtain ⟨n, -, documents, -, -, calls, state, cases⟩ :=
      s.storeValue_cases doc value identity
    rw [show changes = _ from congrArg (Served.changes _) whole, show served = _ from whole]
    dsimp only
    rw [calls, state]
    rcases cases with ⟨-, result, rfl⟩ | ⟨-, rfl, failure, result, -⟩
    · simp only [Served.changes, result, asked]
      rfl
    · simp only [Served.changes, result]
      rfl

/-- A request is charged its calls, and makes its change. Nothing else is different afterwards. -/
theorem state_serve (request : Request) :
    let served := s.serve request
    let changes := served.changes s.inner.failingReads
    served.state =
      { s with inner := s.inner.charged (ScriptedStore.only request.operation served.calls)
                          changes } := by
  have inner {state : ScriptedStore} {calls changes} (h : state = s.inner.charged calls changes) :
    { s with inner := state } = { s with inner := s.inner.charged calls changes } :=
    congrArg (fun inner => { s with inner }) h
  cases request with
  | write doc value identity => exact s.state_serve_write rfl
  | writeAs type doc value id => exact s.state_serve_write rfl
  | retrieve read doc => exact inner (s.inner.state_retrieve doc)
  | search read schema path value => exact inner (s.inner.state_search schema path value)
  | delete doc => exact inner (s.inner.state_delete doc)
  | schemas => exact inner (s.inner.charged_eq_self fun _ other => if_neg other).symm

/-- The calls of a write play the outcomes of the script in order, up to the one that settles
it. -/
theorem serve_write_plays (write : request.operation = .write) :
    let served := s.serve request
    let outcome := s.inner.script.entryAt
    (∀ doc value, request.change? = some (.put doc value) → ∀ m < served.calls,
      (stateAt (DataStore.store doc value) s.inner m).script.current = outcome m) ∧
    match served.reply with
    | .written (.ok ()) => ∃ n, served.calls = n + 1 ∧ outcome n = .succeed ∧
        ∀ m < n, (outcome m).isTransient = true
    | .written (.error failure) => served.calls = failure.attempts.toNat ∧
        ∀ m < served.calls, outcome m ≠ .succeed
    | _ => False := by
  intro served outcome
  rcases s.serve_write write with ⟨failure, none, up, whole⟩ | ⟨doc, value, identity, asked, whole⟩
  · -- No call was made, so nothing was played.
    rw [show served = _ from whole, none]
    refine ⟨fun doc value h => (nomatch h), ?_⟩
    dsimp only
    rw [up]
    exact ⟨rfl, fun m hm => absurd hm m.not_lt_zero⟩
  · obtain ⟨n, -, documents, transient, -, calls, -, cases⟩ :=
      s.storeValue_cases doc value identity
    rw [show served = _ from whole, asked]
    dsimp only
    rw [calls]
    constructor
    · -- All calls before the one in question were transient, so they only took their outcomes.
      rintro _ _ ⟨⟩ m hm
      rw [ScriptedStore.stateAt_store doc value fun k hk =>
        transient k (hk.trans_le (Nat.lt_succ_iff.1 hm))]
      exact Script.current_drop _ _
    · rcases cases with ⟨succeeds, result, -⟩ | ⟨fails, -, failure, result, -, attempts, -⟩
      · rw [result]
        exact ⟨n, rfl, succeeds, transient⟩
      · rw [result]
        refine ⟨attempts.symm, fun m hm => ?_⟩
        rcases Nat.lt_succ_iff_lt_or_eq.1 hm with before | rfl
        · exact WriteOutcome.ne_succeed (transient m before)
        · exact fails

/-! ## All requests -/

theorem after_eq (requests : List Request) :
    let served := s.served requests
    let changes := served.flatMap (Served.changes s.inner.failingReads)
    s.after requests =
      { s with inner := s.inner.charged (Served.callsOf · served) changes } := by
  intro served changes
  -- The charge for the first request goes in front of the charges for the others.
  induction requests generalizing s with
  | nil =>
    exact congrArg (fun inner => { s with inner }) (s.inner.charged_eq_self fun _ _ => rfl).symm
  | cons request requests ih =>
    have first := s.state_serve request
    have inner : (s.serve request).state.inner = s.inner.charged _ _ :=
      congrArg RetryingStore.inner first
    have total : (Served.callsOf · served) = fun operation =>
        ScriptedStore.only request.operation (s.serve request).calls operation +
          Served.callsOf operation ((s.serve request).state.served requests) :=
      funext fun operation => s.callsOf_cons operation request requests
    rw [total, show changes = _ from List.flatMap_cons, ← ScriptedStore.charged_charged, ← inner]
    refine (ih (s.serve request).state).trans ?_
    rw [congrArg ScriptedStore.failingReads inner, congrArg RetryingStore.policy first]
    rfl

/-! ## What a request gets -/

/-- A read, search or deletion that is made to fail gets an error that can be retried, and leaves
the documents as they are. -/
theorem serve_failing (failing : s.inner.failingReads = true)
    (passedOn : request.operation ∈ [.retrieve, .search, .delete]) :
    ∃ e, (s.serve request).reply.error? = some e ∧ e.signal.value = .retryable ∧
      e.cause.signal.value = .retryable ∧
      (s.serve request).state.inner.documents = s.inner.documents := by
  cases request with
  | write | writeAs | schemas => simp [Request.operation] at passedOn
  | @retrieve α read doc =>
    have failed : DataStore.retrieve doc s.inner = _ :=
      ScriptedStore.retrieve_of_failing failing doc
    have reply : (s.serve (.retrieve read doc)).reply =
        .retrieved (.error (ScriptedStore.readFailure "retrieve object") :
          StoreResult (Option α)) := by
      simp only [serve, retrieve, handOn, failed]
      rfl
    exact ⟨_, congrArg Reply.error? reply, rfl, rfl, congrArg (·.state.documents) failed⟩
  | @search α read schema path value =>
    have failed : DataStore.search schema path value s.inner = _ :=
      ScriptedStore.search_of_failing failing schema path value
    have reply : (s.serve (.search read schema path value)).reply =
        .found (.error (ScriptedStore.readFailure "search schema") : StoreResult (List α)) := by
      simp only [serve, search, handOn, failed]
      rfl
    exact ⟨_, congrArg Reply.error? reply, rfl, rfl, congrArg (·.state.documents) failed⟩
  | delete doc =>
    have failed : DataStore.delete doc s.inner = _ :=
      ScriptedStore.delete_of_failing failing doc
    have reply : (s.serve (.delete doc)).reply =
        .deleted (.error (ScriptedStore.readFailure "delete object")) := by
      simp only [serve, delete, handOn, failed]
    exact ⟨_, congrArg Reply.error? reply, rfl, rfl, congrArg (·.state.documents) failed⟩

theorem serve_retrieve_of_duplicate (answering : s.inner.failingReads = false)
    (twice : s.inner.duplicateResults = true) {α : Type} (read : DocumentReader α)
    (doc : Address) :
    (s.serve (.retrieve read doc)).reply = .retrieved
      (if (s.inner.documents.get? doc).isSome then .error (.multipleResults doc 2)
        else .ok none : StoreResult (Option α)) := by
  have answer : (DataStore.retrieve doc s.inner).value = _ :=
    ScriptedStore.retrieve_of_duplicate answering twice doc
  simp only [serve, retrieve, handOn, answer]
  split <;> rfl

theorem serve_retrieve (answering : s.inner.failingReads = false)
    (once : s.inner.duplicateResults = false) {α : Type} (read : DocumentReader α)
    (doc : Address) :
    (s.serve (.retrieve read doc)).reply = .retrieved
      (match s.inner.documents.get? doc with
        | none => .ok none
        | some document => (convert read document).map some) := by
  have answer : (DataStore.retrieve doc s.inner).value = .ok (s.inner.documents.get? doc) :=
    ScriptedStore.retrieve_of_single answering once doc
  simp only [serve, retrieve, handOn, answer]
  cases s.inner.documents.get? doc <;> rfl

/-! ## The accounts -/

theorem tidy_changed {documents : MemoryStore} (tidy : documents.Tidy) (changes : List Change) :
    (changes.foldl Change.apply documents).Tidy := by
  induction changes generalizing documents with
  | nil => exact tidy
  | cons change changes ih =>
    cases change with
    | put doc value => exact ih (tidy.put doc value)
    | remove doc => exact ih (tidy.remove doc)

/-- After any requests, each counter, the script and the documents are what the requests make of
them, and the next request is served from there. -/
theorem after_accounted (s : RetryingStore ScriptedStore) (requests : List Request) :
    let served := s.served requests
    let requested := fun operation => requests.countP (·.operation = operation)
    -- The calls that the writes made, whether they succeeded or not.
    let written := Served.callsOf .write served
    let changes := served.flatMap (Served.changes s.inner.failingReads)
    let after := s.after requests
    let outcome := fun m => s.inner.script.entryAt (written + m)
    -- What the changes left at each address, in the order in which they were made.
    let held := changes.foldl Change.update s.inner.documents.get?
    -- The counters are words, so they count modulo the size of words.
    after = { s with inner := { s.inner with
        storeCalls := s.inner.storeCalls + UInt32.ofNat written
        retrieveCalls := s.inner.retrieveCalls + UInt32.ofNat (requested .retrieve)
        searchCalls := s.inner.searchCalls + UInt32.ofNat (requested .search)
        deleteCalls := s.inner.deleteCalls + UInt32.ofNat (requested .delete)
        script := s.inner.script.drop written
        documents := changes.foldl Change.apply s.inner.documents } } ∧
    after.inner.documents.get? = held ∧
    -- No collection is kept without documents, if none was.
    (s.inner.documents.Tidy → ∀ schema, schema ∈ after.schemas ↔
      ∃ key document, held ⟨schema, key⟩ = some document) ∧
    -- A write plays the outcomes that follow, up to its success or as many as it has attempts.
    (∀ request : Request, request.operation = .write →
      let next := after.serve request
      (∀ doc value, request.change? = some (.put doc value) → ∀ m < next.calls,
        (stateAt (DataStore.store doc value) after.inner m).script.current = outcome m) ∧
      match next.reply with
      | .written (.ok ()) => ∃ n, next.calls = n + 1 ∧ outcome n = .succeed ∧
          ∀ m < n, (outcome m).isTransient = true
      | .written (.error failure) => next.calls = failure.attempts.toNat ∧
          ∀ m < next.calls, outcome m ≠ .succeed
      | _ => False) ∧
    -- Reads, searches and deletions that are made to fail can be retried, and change nothing.
    (s.inner.failingReads = true →
      ∀ request : Request, request.operation ∈ [.retrieve, .search, .delete] →
        let next := after.serve request
        ∃ e, next.reply.error? = some e ∧ e.signal.value = .retryable ∧
          e.cause.signal.value = .retryable ∧
          next.state.inner.documents = after.inner.documents) ∧
    -- A document that a lookup reports twice is too many, and no document is none.
    (s.inner.failingReads = false → s.inner.duplicateResults = true →
      ∀ {α : Type} (read : DocumentReader α) doc,
        (after.serve (.retrieve read doc)).reply = .retrieved
          (if (held doc).isSome then .error (.multipleResults doc 2)
            else .ok none : StoreResult (Option α))) ∧
    -- Otherwise the document that is held is read.
    (s.inner.failingReads = false → s.inner.duplicateResults = false →
      ∀ {α : Type} (read : DocumentReader α) doc,
        (after.serve (.retrieve read doc)).reply = .retrieved
          (match held doc with
            | none => .ok none
            | some document => (convert read document).map some)) := by
  intro served requested written changes after outcome held
  have whole : after = { s with inner := s.inner.charged (Served.callsOf · served) changes } :=
    s.after_eq requests
  have reads : ∀ operation ≠ .write, Served.callsOf operation served = requested operation :=
    fun operation read => s.callsOf_of_ne_write read requests
  have plays : after.inner.script.entryAt = outcome := by
    funext m
    rw [whole]
    exact s.inner.script.entryAt_drop written m
  have failing : after.inner.failingReads = s.inner.failingReads := by rw [whole]; rfl
  have twice : after.inner.duplicateResults = s.inner.duplicateResults := by rw [whole]; rfl
  have documents : after.inner.documents = changes.foldl Change.apply s.inner.documents := by
    rw [whole]
    rfl
  have read : after.inner.documents.get? = held := by
    rw [documents]
    exact Change.get?_changed s.inner.documents changes
  refine ⟨?_, read, fun tidy schema => ?_, fun request write => ?_, fun h request passedOn => ?_,
    fun answering h _ reader doc => ?_, fun answering h _ reader doc => ?_⟩
  · rw [whole, ScriptedStore.charged, reads .retrieve nofun, reads .search nofun,
      reads .delete nofun]
  · rw [← read]
    have kept : after.inner.documents.Tidy := documents ▸ tidy_changed tidy changes
    exact kept.mem_schemas
  · rw [← plays]
    exact after.serve_write_plays write
  · exact after.serve_failing (failing.trans h) passedOn
  · rw [← read]
    exact after.serve_retrieve_of_duplicate (failing.trans answering) (twice.trans h) reader doc
  · rw [← read]
    exact after.serve_retrieve (failing.trans answering) (twice.trans h) reader doc

end RetryingStore

end SteadyStore
