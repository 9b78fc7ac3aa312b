import SteadyStore.Proofs.Retry.Record
/-!
# Which failures are reported

A run reports a failed attempt by an event that names the operation, the attempt and the error
(`Event.failureReport?`). It does so once for each failure that another attempt may help, in order, and
for no other (`reports_of_run`). So the reports are numbered without a gap, and the only failure that
can be missing is the last one, of a run that another attempt cannot help.
-/

namespace SteadyStore

/-- What is reported of an attempt that failed. -/
structure FailureReport where
  operation : String
  attempt : Nat
  error : String
deriving DecidableEq, Repr

/-- What the event reports of a failed attempt, if it is one at debug that names the operation, the
attempt and the error. -/
def Event.failureReport? (event : Event) : Option FailureReport :=
  match event.level, event.fields.lookup "operation", event.fields.lookup "attempt",
    event.fields.lookup "error" with
  | .debug, some (.text operation), some (.count attempt), some (.bare error) =>
    some { operation, attempt, error }
  | _, _, _, _ => none

namespace RetryPolicy

variable {σ ε α : Type} [HasCause ε] {policy : RetryPolicy} {label : String}
  {operation : σ → Step σ (Except ε α)} {classify : ε → Logged Signal} {state : σ} {n : Nat}

/-- The report of an attempt, which only a failure that another attempt may help has. -/
def reportOf (label : String) (classify : ε → Logged Signal) (attempt : Nat) :
    Except ε α → Option FailureReport
  | .ok _ => none
  | .error e =>
    match (classify e).value with
    | .permanent => none
    | .retryable => some { operation := label, attempt, error := errorText e }

/-! ## Reports in the record of a run -/

theorem reports_attemptNotes (attempt : Nat) (outcome : Except ε α) :
    (policy.attemptNotes label classify attempt outcome).filterMap Event.failureReport? =
      (reportOf label classify attempt outcome).toList := by
  cases outcome with
  | ok value => rfl
  | error e =>
    rw [attemptNotes, reportOf]
    cases (classify e).value with
    | permanent => rfl
    | retryable =>
      by_cases notLast : attempt < policy.config.maxAttempts.toNat
      · rw [if_pos notLast]
        rfl
      · rw [if_neg notLast]
        rfl

theorem reports_closingNotes (calls : Nat) (result : Except (RetryError ε) α) :
    (closingNotes label calls result).filterMap Event.failureReport? = [] := by
  cases result with
  | ok value =>
    rw [closingNotes]
    split <;> rfl
  | error source =>
    rw [closingNotes]
    split <;> rfl

/-! ## Turns and the end -/

/-- The reports of the first attempts. -/
def reportsOf (label : String) (classify : ε → Logged Signal) (operation : σ → Step σ (Except ε α))
    (state : σ) (n : Nat) : List FailureReport :=
  (List.range n).filterMap fun m => reportOf label classify (m + 1) (callAt operation state m).value

/-- How many of the first calls failed. -/
def failedCalls (operation : σ → Step σ (Except ε α)) (state : σ) (n : Nat) : Nat :=
  (List.range n).countP fun m => !(callAt operation state m).value.isOk

omit [HasCause ε] in
theorem failedCalls_succ : failedCalls operation state (n + 1) =
    failedCalls operation state n + if (callAt operation state n).value.isOk then 0 else 1 := by
  rw [failedCalls, List.range_succ, List.countP_append, List.countP_singleton]
  cases (callAt operation state n).value.isOk <;> rfl

theorem range'_one_succ (n : Nat) : List.range' 1 (n + 1) = List.range' 1 n ++ [n + 1] := by
  rw [List.range'_1_concat, Nat.add_comm 1 n]

theorem reportsOf_succ : reportsOf label classify operation state (n + 1) =
    reportsOf label classify operation state n ++
      (reportOf label classify (n + 1) (callAt operation state n).value).toList := by
  simp only [reportsOf, List.filterMap_eq_flatMap_toList, List.range_succ, List.flatMap_append,
    List.flatMap_singleton]

/-- Turns that leave a run open all fail and are all reported. -/
theorem reports_turns (label : String) (unsettled : Unsettled operation classify state n) :
    failedCalls operation state n = n ∧
      (reportsOf label classify operation state n).map FailureReport.attempt = List.range' 1 n := by
  induction n with
  | zero => exact ⟨rfl, rfl⟩
  | succ n ih =>
    obtain ⟨earlier, e, outcome, verdict⟩ := unsettled.split
    obtain ⟨failed, numbered⟩ := ih earlier
    constructor
    · rw [failedCalls_succ, failed, outcome]
      rfl
    · rw [reportsOf_succ, List.map_append, numbered, outcome, reportOf, verdict, range'_one_succ]
      rfl

section Ends
variable {run : Run σ (Except (RetryError ε) α)}
  (ends : policy.Ends label operation classify state n run)
  (unsettled : Unsettled operation classify state n)

include ends unsettled

theorem Ends.reports_eq (hn : n < policy.config.maxAttempts.toNat) :
    run.notes.filterMap Event.failureReport? =
      reportsOf label classify operation state (n + 1) := by
  rw [ends.notes_eq unsettled hn, List.filterMap_append, reports_closingNotes, List.append_nil,
    List.filterMap_flatMap, reportsOf, List.filterMap_eq_flatMap_toList]
  exact List.flatMap_congr fun m _ => reports_attemptNotes (m + 1) _

/-- Only a last failure that another attempt cannot help is missing. -/
theorem Ends.reports_numbered (hn : n < policy.config.maxAttempts.toNat) :
    let failed := failedCalls operation state (n + 1)
    let numbers := (reportsOf label classify operation state (n + 1)).map FailureReport.attempt
    match run.result with
    | .error (.permanent attempts _) =>
      attempts.toNat = failed ∧ numbers = List.range' 1 (failed - 1)
    | _ => numbers = List.range' 1 failed := by
  have bound := policy.maxAttempts_lt
  have number : (UInt32.ofNat (n + 1)).toNat = n + 1 := toNat_attempt (by omega)
  obtain ⟨earlier, numbered⟩ := reports_turns label unsettled
  intro failed numbers
  have failed_eq : failed = n + if (callAt operation state n).value.isOk then 0 else 1 := by
    rw [show failed = _ from failedCalls_succ, earlier]
  have numbers_eq : numbers = List.range' 1 n ++
      (reportOf label classify (n + 1) (callAt operation state n).value).toList.map
        FailureReport.attempt := by
    rw [← numbered, ← List.map_append, ← reportsOf_succ]
  cases ends with
  | succeeded outcome =>
    rw [outcome] at failed_eq numbers_eq
    rw [failed_eq]
    exact numbers_eq.trans (List.append_nil _)
  | permanent outcome verdict =>
    rw [outcome] at failed_eq numbers_eq
    rw [reportOf, verdict] at numbers_eq
    rw [failed_eq]
    exact ⟨number, numbers_eq.trans (List.append_nil _)⟩
  | exhausted outcome verdict =>
    rw [outcome] at failed_eq numbers_eq
    rw [reportOf, verdict] at numbers_eq
    rw [failed_eq]
    exact numbers_eq.trans (range'_one_succ n).symm

end Ends

/-- A run reports the failures that another attempt may help, each once and in order. These are all its
failures, and their numbers are counted from one, unless it ends with a failure that another attempt
cannot help: that one, of the last attempt, is not reported. -/
theorem reports_of_run (policy : RetryPolicy) (label : String)
    (operation : σ → Step σ (Except ε α)) (classify : ε → Logged Signal) (state : σ) :
    let run := policy.run label operation classify state
    let failed := failedCalls operation state run.calls
    let reports := run.notes.filterMap Event.failureReport?
    reports = (List.range run.calls).filterMap (fun n =>
      reportOf label classify (n + 1) (callAt operation state n).value) ∧
    match run.result with
    | .error (.permanent attempts _) =>
      attempts.toNat = failed ∧ reports.map FailureReport.attempt = List.range' 1 (failed - 1)
    | _ => reports.map FailureReport.attempt = List.range' 1 failed := by
  intro run failed reports
  obtain ⟨n, hn, unsettled, ends⟩ := policy.run_ends label operation classify state
  have calls : run.calls = n + 1 := ends.calls_eq unsettled
  have listed : reports = reportsOf label classify operation state (n + 1) :=
    ends.reports_eq unsettled hn
  have numbered := ends.reports_numbered unsettled hn
  refine ⟨?_, ?_⟩
  · rw [listed, calls]
    rfl
  · rw [listed, show failed = failedCalls operation state (n + 1) from
      congrArg (failedCalls operation state) calls]
    exact numbered

/-- A failure that another attempt cannot help leaves no event at all when it is the first. -/
theorem reports_of_hopeless_run :
    let hopeless : Unit → Step Unit (Except Cause Unit) :=
      fun state => ⟨.error (.ofText "broken"), state, []⟩
    let run := RetryPolicy.default.run "write" hopeless (fun _ => pure .permanent) ()
    run.result = .error (.permanent 1 (.ofText "broken")) ∧
      failedCalls hopeless () run.calls = 1 ∧ run.notes = [] ∧
      (run.notes.filterMap Event.failureReport?).map FailureReport.attempt ≠
        List.range' 1 (failedCalls hopeless () run.calls) := by
  decide +kernel

end RetryPolicy

end SteadyStore
