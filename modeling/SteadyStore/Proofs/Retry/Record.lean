import SteadyStore.Proofs.Retry.FirstSettled
/-!
# The log of a run is a record of it

What a run logs itself can be told from its calls and its result: each failure that another attempt
may help, with the wait that follows it, and at most one event at the end (`notes_record_run`). So a
run is silent exactly when its first call settles it, and it announces each of its sleeps.
-/

namespace SteadyStore.RetryPolicy

variable {σ ε α : Type} [HasCause ε]

/-! ## What is recorded -/

/-- The record of an attempt. Only a failure that another attempt may help leaves one, and the wait
is announced right behind it, unless the attempt is the last one allowed. -/
def attemptNotes (policy : RetryPolicy) (label : String) (classify : ε → Logged Signal)
    (attempt : Nat) : Except ε α → List Event
  | .ok _ => []
  | .error e =>
    match (classify e).value with
    | .permanent => []
    | .retryable =>
      { level := .debug
        component := .retry
        message := "Retry failed"
        fields := [("operation", .text label), ("attempt", .count attempt),
          ("error", .bare (errorText e))] } ::
      if attempt < policy.config.maxAttempts.toNat then
        [{ level := .debug
           component := .retry
           message := "Backing off before next attempt"
           fields := [("operation", .text label), ("attempt", .count attempt),
             ("delay_ms", .count (policy.delayAfter (UInt32.ofNat attempt)).millis)] }]
      else []

/-- The record of how a run ended after some calls. What took one call and was not exhausted by it
is not recorded. -/
def closingNotes (label : String) (calls : Nat) : Except (RetryError ε) α → List Event
  | .ok _ =>
    if 1 < calls then
      [{ level := .info
         component := .retry
         message := "Transaction successful after " ++ toString calls ++ " attempts"
         fields := [("operation", .text label), ("attempts", .count calls)] }]
    else []
  | .error source =>
    if source.isExhausted = true ∨ 1 < calls then
      [{ level := .warn
         component := .retry
         message := "Transaction failed after " ++ toString calls ++ " attempts"
         fields := [("operation", .text label), ("attempts", .count calls),
           ("error", .bare (errorText source.inner))] }]
    else []

/-- The event announces that the run waits. -/
def announcesWait (event : Event) : Bool :=
  event.level = .debug && event.message = "Backing off before next attempt"

theorem countP_announcesWait_closingNotes (label : String) (calls : Nat)
    (result : Except (RetryError ε) α) :
    (closingNotes label calls result).countP announcesWait = 0 := by
  cases result with
  | ok value =>
    rw [closingNotes]
    split <;> rfl
  | error source =>
    rw [closingNotes]
    split <;> rfl

variable {policy : RetryPolicy} {label : String} {operation : σ → Step σ (Except ε α)}
  {classify : ε → Logged Signal} {state : σ} {n : Nat}

theorem attemptNotes_of_settles {outcome : Except ε α} (settled : Settles classify outcome)
    (attempt : Nat) : policy.attemptNotes label classify attempt outcome = [] := by
  cases outcome with
  | ok value => rfl
  | error e => rw [attemptNotes, show (classify e).value = .permanent from settled]

theorem attemptNotes_of_retryable {e : ε} (verdict : (classify e).value = .retryable) {attempt : Nat}
    (allowed : attempt < policy.config.maxAttempts.toNat) (fits : attempt < UInt32.size) :
    policy.attemptNotes label classify attempt (.error e : Except ε α) =
      [failedEvent label (UInt32.ofNat attempt) (errorText e),
        backingOffEvent label (UInt32.ofNat attempt)
          (policy.delayAfter (UInt32.ofNat attempt))] := by
  have number : (UInt32.ofNat attempt).toNat = attempt := UInt32.toNat_ofNat_of_lt' fits
  rw [attemptNotes, verdict]
  simp only [if_pos allowed, failedEvent, backingOffEvent, retryEvent, number]

theorem attemptNotes_of_last {e : ε} (verdict : (classify e).value = .retryable) :
    policy.attemptNotes label classify policy.config.maxAttempts.toNat (.error e : Except ε α) =
      [failedEvent label policy.config.maxAttempts (errorText e)] := by
  rw [attemptNotes, verdict]
  simp only [if_neg (Nat.lt_irrefl _), failedEvent, retryEvent]

/-! ## The turns -/

theorem notes_turnsTrace (unsettled : Unsettled operation classify state n)
    (hn : n < policy.config.maxAttempts.toNat) :
    (policy.turnsTrace label operation classify state n).filterMap Action.note? =
      (List.range n).flatMap fun m =>
        policy.attemptNotes label classify (m + 1) (callAt operation state m).value := by
  have bound := policy.maxAttempts_lt
  refine filterMap_turnsTrace _ _ fun m hm => ?_
  obtain ⟨e, outcome, verdict⟩ := exists_error_of_not_settles (unsettled m hm)
  rw [outcome, attemptNotes_of_retryable verdict (by omega) (by omega)]
  simp only [turnTrace, outcome]
  rfl

/-- Each turn announces one wait. -/
theorem countP_announcesWait_turns (unsettled : Unsettled operation classify state n)
    (hn : n < policy.config.maxAttempts.toNat) :
    ((List.range n).flatMap fun m =>
      policy.attemptNotes label classify (m + 1)
        (callAt operation state m).value).countP announcesWait = n := by
  have bound := policy.maxAttempts_lt
  induction n with
  | zero => rfl
  | succ n ih =>
    obtain ⟨earlier, e, outcome, verdict⟩ := unsettled.split
    rw [List.range_succ, List.flatMap_append, List.countP_append, ih earlier (by omega)]
    simp only [List.flatMap_cons, List.flatMap_nil, List.append_nil, outcome]
    rw [attemptNotes_of_retryable verdict (by omega) (by omega)]
    rfl

/-! ## The end -/

section Ends
variable {run : Run σ (Except (RetryError ε) α)}
  (ends : policy.Ends label operation classify state n run)

include ends

/-- What the run records at its end is the failure of its last call, if another attempt might have
helped, and how it ended. -/
theorem Ends.notes_eq (unsettled : Unsettled operation classify state n)
    (hn : n < policy.config.maxAttempts.toNat) :
    run.notes =
      ((List.range (n + 1)).flatMap fun m =>
        policy.attemptNotes label classify (m + 1) (callAt operation state m).value) ++
      closingNotes label (n + 1) run.result := by
  have bound := policy.maxAttempts_lt
  have number : (UInt32.ofNat (n + 1)).toNat = n + 1 := toNat_attempt (by omega)
  have several : 1 < n + 1 ↔ 0 < n := by omega
  rw [List.range_succ, List.flatMap_append, List.flatMap_singleton,
    ← notes_turnsTrace unsettled hn, List.append_assoc]
  cases ends with
  | @succeeded value outcome =>
    have settled : Settles classify (.ok value : Except ε α) := trivial
    rw [Run.notes, List.filterMap_append, outcome, attemptNotes_of_settles settled, closingNotes]
    simp only [several, succeededEvent, retryEvent, number]
    split <;> rfl
  | @permanent e outcome verdict =>
    have settled : Settles classify (.error e : Except ε α) := verdict
    rw [Run.notes, List.filterMap_append, outcome, attemptNotes_of_settles settled, closingNotes]
    simp only [several, gaveUpEvent, retryEvent, number, RetryError.isExhausted,
      Bool.false_eq_true, false_or]
    split <;> rfl
  | exhausted outcome verdict up =>
    rw [Run.notes, List.filterMap_append, outcome, up, attemptNotes_of_last verdict, closingNotes]
    simp only [RetryError.isExhausted, true_or, if_true]
    rfl

/-- The call that ends a run announces no wait. -/
theorem Ends.countP_announcesWait_last :
    (policy.attemptNotes label classify (n + 1)
      (callAt operation state n).value).countP announcesWait = 0 := by
  cases ends with
  | succeeded outcome =>
    rw [outcome]
    rfl
  | @permanent e outcome verdict =>
    have settled : Settles classify (.error e : Except ε α) := verdict
    rw [outcome, attemptNotes_of_settles settled]
    rfl
  | exhausted outcome verdict up =>
    rw [outcome, up, attemptNotes_of_last verdict]
    rfl

theorem Ends.countP_announcesWait_notes (unsettled : Unsettled operation classify state n)
    (hn : n < policy.config.maxAttempts.toNat) : run.notes.countP announcesWait = n := by
  rw [ends.notes_eq unsettled hn, List.countP_append, countP_announcesWait_closingNotes,
    List.range_succ, List.flatMap_append, List.countP_append,
    countP_announcesWait_turns unsettled hn, List.flatMap_singleton,
    ends.countP_announcesWait_last, Nat.add_zero]

/-- A run says nothing when its first call settles it, and else it records the failure of that
call. -/
theorem Ends.notes_eq_nil_iff (unsettled : Unsettled operation classify state n)
    (hn : n < policy.config.maxAttempts.toNat) :
    run.notes = [] ↔ Settles classify (callAt operation state 0).value := by
  constructor
  · intro silent
    by_contra stillOpen
    obtain ⟨e, outcome, verdict⟩ := exists_error_of_not_settles stillOpen
    rw [ends.notes_eq unsettled hn, List.range_succ_eq_map, List.flatMap_cons, outcome,
      attemptNotes, verdict] at silent
    simp at silent
  · intro settled
    -- The calls before the last one leave the run open, so the last one is the first.
    obtain rfl : n = 0 := by
      rcases Nat.eq_zero_or_pos n with none | some
      · exact none
      · exact absurd settled (unsettled 0 some)
    cases ends with
    | succeeded => rfl
    | permanent => rfl
    | exhausted outcome verdict =>
      rw [outcome] at settled
      exact absurd settled (not_settles_of_retryable verdict)

end Ends

/-! ## The whole record -/

/-- The events of a run itself are the records of its attempts in order, and then the record of its
end. The run says nothing exactly when its first call succeeds or fails with an error that another
attempt cannot help. It announces a wait for each of its sleeps. The attempts that the record of the
end gives are those of the error that is handed on. -/
theorem notes_record_run (policy : RetryPolicy) (label : String)
    (operation : σ → Step σ (Except ε α)) (classify : ε → Logged Signal) (state : σ) :
    let run := policy.run label operation classify state
    let outcome := fun n => (callAt operation state n).value
    run.notes =
      ((List.range run.calls).flatMap fun n =>
        policy.attemptNotes label classify (n + 1) (outcome n)) ++
      closingNotes label run.calls run.result ∧
    (run.notes = [] ↔
      (∃ value, outcome 0 = .ok value) ∨
      ∃ e, outcome 0 = .error e ∧ (classify e).value = .permanent) ∧
    run.notes.countP announcesWait = run.sleeps.length ∧
    ∀ source, run.result = .error source → source.attempts.toNat = run.calls := by
  intro run outcome
  obtain ⟨n, hn, unsettled, ends⟩ := policy.run_ends label operation classify state
  have calls : run.calls = n + 1 := ends.calls_eq unsettled
  refine ⟨?_, ?_, ?_, fun source failed => ?_⟩
  · rw [calls]
    exact ends.notes_eq unsettled hn
  · rw [ends.notes_eq_nil_iff unsettled hn]
    show Settles classify (outcome 0) ↔ _
    cases outcome 0 with
    | ok value => simp [Settles]
    | error e => simp [Settles]
  · rw [ends.countP_announcesWait_notes unsettled hn, ends.sleeps_eq unsettled, List.length_map,
      List.length_range]
  · rw [calls]
    exact (ends.of_error hn failed).2.1

end SteadyStore.RetryPolicy
