import SteadyStore.Proofs.Error.Verdict
import SteadyStore.Proofs.Store.FailedWrite
import SteadyStore.Proofs.Store.Memory
import SteadyStore.Store.Scripted
/-!
# Writes that follow a script

A write through the retry policy to a store that follows a script takes outcomes from the script
up to the first one that is not transient, or as many as the policy allows. Only that outcome
decides (`storeValue_cases`): either the document is written and nothing else changes, or the
write fails and no document changes at all (`storeValue_scripted`).
-/

namespace SteadyStore

/-! ## Scripts -/

namespace Script

variable {α : Type}

/-- What is left to play after some entries. -/
def drop (script : Script α) (n : Nat) : Script α :=
  { script with entries := script.entries.drop n }

theorem current_drop (script : Script α) (n : Nat) :
    (script.drop n).current = script.entryAt n := by
  simp [current, drop, entryAt, List.headD_eq_head?_getD, List.head?_drop,
    List.getD_eq_getElem?_getD]

theorem advance_drop (script : Script α) (n : Nat) :
    (script.drop n).advance = script.drop (n + 1) := by
  simp [advance, drop, List.tail_drop]

theorem drop_drop (script : Script α) (n m : Nat) :
    (script.drop n).drop m = script.drop (n + m) := by
  simp only [drop, List.drop_drop]

theorem entryAt_drop (script : Script α) (n m : Nat) :
    (script.drop n).entryAt m = script.entryAt (n + m) := by
  simp only [drop, entryAt, List.getD_eq_getElem?_getD, List.getElem?_drop]

end Script

/-! ## One write -/

theorem WriteOutcome.ne_succeed {outcome : WriteOutcome} (transient : outcome.isTransient = true) :
    outcome ≠ .succeed := by
  rintro rfl
  cases transient

namespace ScriptedStore

/-- The state once some writes were counted and their outcomes taken from the script. -/
def afterWrites (s : ScriptedStore) (n : Nat) : ScriptedStore :=
  { s with storeCalls := s.storeCalls + UInt32.ofNat n, script := s.script.drop n }

theorem afterWrites_zero (s : ScriptedStore) : s.afterWrites 0 = s := by
  simp [afterWrites, Script.drop]

theorem afterWrite_afterWrites (s : ScriptedStore) (n : Nat) :
    (s.afterWrites n).afterWrite = s.afterWrites (n + 1) := by
  simp only [afterWrites, afterWrite, Script.advance_drop, UInt32.ofNat_add, UInt32.add_assoc]
  rfl

variable (doc : Address) (value : Json) {s : ScriptedStore}

theorem store_of_succeed (h : s.script.current = .succeed) :
    (store doc value s).value = .ok () ∧
      (store doc value s).state = { s.afterWrite with documents := s.documents.put doc value } := by
  simp only [store, h]
  exact ⟨rfl, rfl⟩

/-- A write that does not succeed fails with an error that can be retried if the outcome is
transient, and changes no document. -/
theorem store_of_ne_succeed (h : s.script.current ≠ .succeed) :
    (store doc value s).state = s.afterWrite ∧
      ∃ e, (store doc value s).value = .error e ∧
        e.signal.value = if s.script.current.isTransient then .retryable else .permanent := by
  cases outcome : s.script.current with
  | succeed => exact absurd outcome h
  | contention =>
    simp only [store, outcome]
    exact ⟨trivial, _, rfl, rfl⟩
  | status code =>
    simp only [store, outcome]
    refine ⟨trivial, _, rfl, ?_⟩
    rw [(StoreError.ofFailedWrite_hasVerdict doc (.ofFailedWrite code)).signal]
    exact Cause.signal_ofStatus (.ofCode code) none
  | fail message =>
    simp only [store, outcome]
    exact ⟨trivial, _, rfl, rfl⟩

/-- A write leaves a run open when its outcome is transient. -/
theorem settles_store_iff :
    Settles StoreError.signal (store doc value s).value ↔
      s.script.current.isTransient = false := by
  by_cases h : s.script.current = .succeed
  · rw [(store_of_succeed doc value h).1, h]
    exact ⟨fun _ => rfl, fun _ => trivial⟩
  · obtain ⟨-, e, failed, verdict⟩ := store_of_ne_succeed doc value h
    rw [failed, Settles, verdict]
    split <;> simp [*]

/-! ## Writes in sequence -/

variable {n : Nat}

/-- Writes with transient outcomes are counted and take their outcomes from the script, and that is
all they do. -/
theorem stateAt_store (transient : ∀ m < n, (s.script.entryAt m).isTransient = true) :
    stateAt (DataStore.store doc value) s n = s.afterWrites n := by
  induction n with
  | zero => exact (afterWrites_zero s).symm
  | succ n ih =>
    have failed : (s.afterWrites n).script.current ≠ .succeed := by
      rw [show (s.afterWrites n).script.current = _ from Script.current_drop _ _]
      exact WriteOutcome.ne_succeed (transient n n.lt_succ_self)
    rw [stateAt_succ, callAt, ih fun m hm => transient m (hm.trans n.lt_succ_self)]
    exact (store_of_ne_succeed doc value failed).1.trans (afterWrite_afterWrites s n)

theorem callAt_store (transient : ∀ m < n, (s.script.entryAt m).isTransient = true) :
    callAt (DataStore.store doc value) s n = store doc value (s.afterWrites n) :=
  congrArg (store doc value) (stateAt_store doc value transient)

/-- The first call after transient outcomes settles a run when its own outcome is not transient. -/
theorem settles_callAt_iff (transient : ∀ m < n, (s.script.entryAt m).isTransient = true) :
    Settles StoreError.signal (callAt (DataStore.store doc value) s n).value ↔
      (s.script.entryAt n).isTransient = false := by
  rw [callAt_store doc value transient, settles_store_iff, ← Script.current_drop]
  rfl

theorem transient_of_unsettled
    (unsettled : Unsettled (DataStore.store doc value) StoreError.signal s n) :
    ∀ m < n, (s.script.entryAt m).isTransient = true := by
  -- Which outcome a call plays is known once the outcomes before it are known to be transient.
  induction n with
  | zero => exact fun m hm => absurd hm m.not_lt_zero
  | succ n ih =>
    have earlier := ih fun m hm => unsettled m (hm.trans n.lt_succ_self)
    have last := unsettled n n.lt_succ_self
    rw [settles_callAt_iff doc value earlier, Bool.not_eq_false] at last
    intro m hm
    rcases Nat.lt_succ_iff_lt_or_eq.1 hm with before | rfl
    · exact earlier m before
    · exact last

end ScriptedStore

/-! ## Writes through the retry policy -/

namespace RetryingStore

/-- What a write is: some calls with transient outcomes, and one call more, which is the last one
allowed if its outcome is transient too. That call writes the document, or the write fails. -/
theorem storeValue_cases (s : RetryingStore ScriptedStore) (doc : Address) (value : Json)
    (identity : Identity) :
    let run := s.storeValue doc value identity
    let outcome := s.inner.script.entryAt
    let allowed := s.policy.config.maxAttempts.toNat
    ∃ n < allowed, ∃ documents,
      (∀ m < n, (outcome m).isTransient = true) ∧
      ((outcome n).isTransient = true → n + 1 = allowed) ∧
      run.calls = n + 1 ∧
      run.state = { s with inner := { s.inner.afterWrites (n + 1) with documents } } ∧
      ((outcome n = .succeed ∧ run.result = .ok () ∧
          documents = s.inner.documents.put doc value) ∨
        (outcome n ≠ .succeed ∧ documents = s.inner.documents ∧
          ∃ failure : WriteFailure, run.result = .error failure ∧ failure.identity = identity ∧
            failure.attempts.toNat = n + 1 ∧ failure.isExhausted = (outcome n).isTransient)) := by
  intro run outcome allowed
  obtain ⟨n, hn, unsettled, ends⟩ :=
    s.policy.run_ends "storeObject" (DataStore.store doc value) StoreError.signal s.inner
  -- The calls before the last one only count, so that one plays the outcome of its own number.
  have transient := ScriptedStore.transient_of_unsettled doc value unsettled
  have settled := ScriptedStore.settles_callAt_iff doc value transient
  have last := ScriptedStore.callAt_store doc value transient
  have current : (s.inner.afterWrites n).script.current = outcome n := Script.current_drop _ _
  have calls : run.calls = n + 1 :=
    (calls_storeValue doc value identity s).trans (ends.calls_eq unsettled)
  have lastAllowed : (outcome n).isTransient = true → n + 1 = allowed := fun again =>
    (ends.result_of_not_settles (by rw [settled, Bool.not_eq_false]; exact again)).1
  have after : (s.attempt doc value).state = (ScriptedStore.store doc value _).state :=
    ends.state_eq.trans (by rw [stateAt_succ, last])
  by_cases succeeds : outcome n = .succeed
  · obtain ⟨written, stored⟩ :=
      ScriptedStore.store_of_succeed doc value (current.trans succeeds)
    have handedOn := ends.result_of_settles hn (settled.2 (congrArg _ succeeds))
    rw [last, written] at handedOn
    have whole : run = _ := storeValue_of_ok handedOn
    refine ⟨n, hn, _, transient, lastAllowed, calls, ?_, .inl ⟨succeeds, by rw [whole], rfl⟩⟩
    rw [whole, after, stored, ScriptedStore.afterWrite_afterWrites]
    rfl
  · obtain ⟨unchanged, e, failed, verdict⟩ := ScriptedStore.store_of_ne_succeed doc value
      (show (s.inner.afterWrites n).script.current ≠ .succeed from current ▸ succeeds)
    rw [current] at verdict
    rw [← last] at failed
    obtain ⟨source, result⟩ := ends.failed_of_error failed
    obtain ⟨answered, attempts, exhausted, -⟩ := ends.of_error hn result
    obtain rfl : source.inner = e := Except.error.inj (answered.symm.trans failed)
    have whole : run = _ := storeValue_of_error result
    refine ⟨n, hn, _, transient, lastAllowed, calls, ?_,
      .inr ⟨succeeds, rfl, { identity, source }, by rw [whole], rfl, attempts, ?_⟩⟩
    · rw [whole, after, unchanged, ScriptedStore.afterWrite_afterWrites]
      rfl
    · rw [Bool.eq_iff_iff]
      refine exhausted.trans ?_
      rw [verdict]
      split <;> simp [*]

/-- A write to a scripted store succeeds if the first outcome that is not transient is a success and
comes in time. Then the document is at its address, and all others are what they were. A write that
fails changes no document: another outcome that is not transient ends it at once, and nothing but
transient outcomes use up its attempts. Each call takes one outcome from the script. -/
theorem storeValue_scripted (s : RetryingStore ScriptedStore) (doc : Address) (value : Json)
    (identity : Identity) :
    let run := s.storeValue doc value identity
    let outcome := s.inner.script.entryAt
    let allowed := s.policy.config.maxAttempts.toNat
    let before := s.inner.documents
    let after := run.state.inner.documents
    let FirstInTime := fun n => IsLeast {m | (outcome m).isTransient = false} n ∧ n < allowed
    (run.result = .ok () ↔ ∃ n, FirstInTime n ∧ outcome n = .succeed) ∧
    -- The write succeeds.
    (∀ n, FirstInTime n → outcome n = .succeed →
      run.calls = n + 1 ∧ after.get? doc = some value ∧
        ∀ other ≠ doc, after.get? other = before.get? other) ∧
    -- It fails for good.
    (∀ n, FirstInTime n → outcome n ≠ .succeed →
      run.calls = n + 1 ∧ after = before ∧
        ∃ failure : WriteFailure, run.result = .error failure ∧ failure.identity = identity ∧
          failure.isExhausted = false ∧ failure.attempts.toNat = n + 1) ∧
    -- It uses up its attempts.
    ((∀ n < allowed, (outcome n).isTransient = true) →
      run.calls = allowed ∧ after = before ∧
        ∃ failure : WriteFailure, run.result = .error failure ∧ failure.identity = identity ∧
          failure.isExhausted = true ∧ failure.attempts.toNat = allowed) ∧
    -- Apart from the documents, the calls are counted and their outcomes gone.
    run.state = { s with inner := { s.inner.afterWrites run.calls with documents := after } } := by
  intro run outcome allowed before after FirstInTime
  obtain ⟨n, hn, documents, transient, last, calls, state, cases⟩ :=
    s.storeValue_cases doc value identity
  -- The first outcome that is not transient is that of the last call, if it comes in time.
  have reached : ∀ k, FirstInTime k → k = n := fun k first =>
    RetryPolicy.eq_last_of_isLeast (fun m hm settled => Bool.noConfusion
      (settled.symm.trans (transient m hm))) (fun h => last (Bool.not_eq_false _ ▸ h))
      first.1 first.2
  have documents_eq : after = documents := congrArg (fun s => s.inner.documents) state
  have whole : run.state =
      { s with inner := { s.inner.afterWrites run.calls with documents := after } } := by
    rw [documents_eq, show run.calls = n + 1 from calls]
    exact state
  rcases cases with ⟨succeeds, written, stored⟩ |
    ⟨fails, kept, failure, failed, named, attempts, exhausted⟩
  · have least : IsLeast {m | (outcome m).isTransient = false} n :=
      ⟨congrArg _ succeeds, fun m hm => Nat.le_of_not_lt fun earlier =>
        Bool.noConfusion (hm.symm.trans (transient m earlier))⟩
    have first : FirstInTime n := ⟨least, hn⟩
    refine ⟨⟨fun _ => ⟨n, first, succeeds⟩, fun _ => written⟩, fun k hk _ => ?_,
      fun k hk fails => ?_, fun never => ?_, whole⟩
    · obtain rfl := reached k hk
      refine ⟨calls, ?_, fun other different => ?_⟩ <;>
        rw [documents_eq, stored, MemoryStore.get?_put]
      · rw [if_pos rfl]
      · rw [if_neg different]
    · obtain rfl := reached k hk
      exact absurd succeeds fails
    · have verdict := never n hn
      rw [show outcome n = _ from succeeds] at verdict
      cases verdict
  · have unwritten : run.result ≠ .ok () := by
      rw [show run.result = _ from failed]
      nofun
    have unchanged : after = before := documents_eq.trans kept
    refine ⟨⟨fun written => absurd written unwritten, ?_⟩, fun k hk succeeds => ?_,
      fun k hk _ => ?_, fun never => ?_, whole⟩
    · rintro ⟨k, hk, succeeds⟩
      obtain rfl := reached k hk
      exact absurd succeeds fails
    · obtain rfl := reached k hk
      exact absurd succeeds fails
    · obtain rfl := reached k hk
      exact ⟨calls, unchanged, failure, failed, named, exhausted.trans hk.1.1, attempts⟩
    · have up := last (never n hn)
      exact ⟨calls.trans up, unchanged, failure, failed, named,
        exhausted.trans (never n hn), attempts.trans up⟩

end RetryingStore

end SteadyStore
