import Mathlib.Logic.Function.Iterate
import Mathlib.Order.Nat
import SteadyStore.Retry.Run
/-!
# Turns of a run

An operation that is called again and again gives a sequence of calls (`callAt`), and a run
makes the first calls of it. Each call that leaves the run open is a turn of the loop
(`turnTrace`), and the last call ends the run in one of three ways (`Ends`). `run_ends` sums
a run up, and what is known of runs follows from it by cases.
-/

namespace SteadyStore

variable {σ ε α : Type}

/-! ## Calls in sequence -/

section Calls
variable {β : Type} (operation : σ → Step σ β) (state : σ)

/-- The state before a call of the sequence. Calls count from zero. -/
def stateAt (n : Nat) : σ := (fun s => (operation s).state)^[n] state

/-- A call of the sequence. -/
def callAt (n : Nat) : Step σ β := operation (stateAt operation state n)

theorem stateAt_succ (n : Nat) :
    stateAt operation state (n + 1) = (callAt operation state n).state :=
  Function.iterate_succ_apply' _ _ _

end Calls

/-! ## Outcomes that settle a run -/

/-- An outcome after which no other attempt is made: a value, or a failure that another
attempt cannot help. -/
def Settles (classify : ε → Logged Signal) : Except ε α → Prop
  | .ok _ => True
  | .error e => (classify e).value = .permanent

theorem exists_error_of_not_settles {classify : ε → Logged Signal} {outcome : Except ε α}
    (h : ¬Settles classify outcome) :
    ∃ e, outcome = .error e ∧ (classify e).value = .retryable := by
  cases outcome with
  | ok value => exact absurd trivial h
  | error e =>
    refine ⟨e, rfl, ?_⟩
    cases verdict : (classify e).value with
    | retryable => rfl
    | permanent => exact absurd verdict h

theorem not_settles_of_retryable {classify : ε → Logged Signal} {e : ε}
    (h : (classify e).value = .retryable) : ¬Settles classify (.error e : Except ε α) := by
  intro settled
  rw [Settles, h] at settled
  cases settled

/-- The calls before the `n`-th all leave the run open. -/
def Unsettled (operation : σ → Step σ (Except ε α)) (classify : ε → Logged Signal) (state : σ)
    (n : Nat) : Prop :=
  ∀ m < n, ¬Settles classify (callAt operation state m).value

/-- The calls before the `n + 1`-st leave the run open when those before the `n`-th do, and the
`n`-th fails with an error that another attempt may help. -/
theorem Unsettled.split {operation : σ → Step σ (Except ε α)} {classify : ε → Logged Signal}
    {state : σ} {n : Nat} (h : Unsettled operation classify state (n + 1)) :
    Unsettled operation classify state n ∧
      ∃ e, (callAt operation state n).value = .error e ∧ (classify e).value = .retryable :=
  ⟨fun m hm => h m (hm.trans n.lt_succ_self), exists_error_of_not_settles (h n n.lt_succ_self)⟩

/-- The same run with something before it. -/
def Run.prepend {ρ : Type} (before : List Action) (run : Run σ ρ) : Run σ ρ :=
  { run with trace := before ++ run.trace }

namespace RetryPolicy

theorem maxAttempts_lt (policy : RetryPolicy) : policy.config.maxAttempts.toNat < UInt32.size :=
  policy.config.maxAttempts.toNat_lt_size

/-- The number of the attempt that comes after `n` others, while it fits the word. -/
theorem toNat_attempt {n : Nat} (h : n + 1 < UInt32.size) : (UInt32.ofNat (n + 1)).toNat = n + 1 :=
  UInt32.toNat_ofNat_of_lt' h

theorem one_lt_attempt_iff {n : Nat} (h : n + 1 < UInt32.size) :
    1 < UInt32.ofNat (n + 1) ↔ 0 < n := by
  rw [UInt32.lt_iff_toNat_lt, toNat_attempt h, UInt32.toNat_one]
  omega

variable [HasCause ε] (policy : RetryPolicy) (label : String)
  (operation : σ → Step σ (Except ε α)) (classify : ε → Logged Signal)

/-! ## One turn -/

section Turn
variable {policy label operation classify} {attempt : UInt32} {state : σ}

theorem runFrom_of_ok {value : α} (outcome : (operation state).value = .ok value) :
    policy.runFrom label operation classify attempt state =
      { result := .ok value
        state := (operation state).state
        trace := .call (operation state).events ::
          (if 1 < attempt then [.note (succeededEvent label attempt)] else []) } := by
  rw [runFrom]
  simp only [outcome]

theorem runFrom_of_permanent {e : ε} (outcome : (operation state).value = .error e)
    (verdict : (classify e).value = .permanent) :
    policy.runFrom label operation classify attempt state =
      { result := .error (.permanent attempt e)
        state := (operation state).state
        trace := .call (operation state).events :: .judge (classify e).events ::
          (if 1 < attempt then [.note (gaveUpEvent label attempt (errorText e))] else []) } := by
  rw [runFrom]
  simp only [outcome, verdict]

theorem runFrom_of_exhausted {e : ε} (outcome : (operation state).value = .error e)
    (verdict : (classify e).value = .retryable) (up : ¬attempt < policy.config.maxAttempts) :
    policy.runFrom label operation classify attempt state =
      { result := .error (.exhausted attempt e)
        state := (operation state).state
        trace := [.call (operation state).events, .judge (classify e).events,
          .note (failedEvent label attempt (errorText e)),
          .note (gaveUpEvent label attempt (errorText e))] } := by
  rw [runFrom]
  simp only [outcome, verdict, dif_neg up]

theorem runFrom_of_retryable {e : ε} (outcome : (operation state).value = .error e)
    (verdict : (classify e).value = .retryable) (allowed : attempt < policy.config.maxAttempts) :
    policy.runFrom label operation classify attempt state =
      (policy.runFrom label operation classify (attempt + 1) (operation state).state).prepend
        [.call (operation state).events, .judge (classify e).events,
          .note (failedEvent label attempt (errorText e)),
          .note (backingOffEvent label attempt (policy.delayAfter attempt)),
          .sleep (policy.delayAfter attempt)] := by
  rw [runFrom]
  simp only [outcome, verdict, dif_pos allowed]
  rfl

end Turn

/-! ## All turns -/

variable (state : σ)

/-- What happens in a turn that leaves the run open. -/
def turnTrace (n : Nat) : List Action :=
  match (callAt operation state n).value with
  | .ok _ => []
  | .error e =>
    let attempt := UInt32.ofNat (n + 1)
    [.call (callAt operation state n).events, .judge (classify e).events,
      .note (failedEvent label attempt (errorText e)),
      .note (backingOffEvent label attempt (policy.delayAfter attempt)),
      .sleep (policy.delayAfter attempt)]

/-- What happens in the first turns, when they all leave the run open. -/
def turnsTrace (n : Nat) : List Action :=
  (List.range n).flatMap (policy.turnTrace label operation classify state)

theorem turnsTrace_succ (n : Nat) :
    policy.turnsTrace label operation classify state (n + 1) =
      policy.turnsTrace label operation classify state n ++
        policy.turnTrace label operation classify state n := by
  simp [turnsTrace, List.range_succ]

/-- After turns that leave it open a run is at the next call of the sequence, and the number of
the attempt is one more than the calls made. -/
theorem run_eq_prepend (n : Nat) (hn : n < policy.config.maxAttempts.toNat)
    (unsettled : Unsettled operation classify state n) :
    policy.run label operation classify state =
      (policy.runFrom label operation classify (UInt32.ofNat (n + 1))
        (stateAt operation state n)).prepend (policy.turnsTrace label operation classify state n) := by
  -- Over the calls made. The next turn is the first of the rest of the run.
  induction n with
  | zero => rfl
  | succ n ih =>
    have bound := policy.maxAttempts_lt
    obtain ⟨earlier, e, outcome, verdict⟩ := unsettled.split
    have allowed : UInt32.ofNat (n + 1) < policy.config.maxAttempts := by
      rw [UInt32.lt_iff_toNat_lt, toNat_attempt (by omega)]
      exact hn
    rw [ih (by omega) earlier, turnsTrace_succ, stateAt_succ, UInt32.ofNat_add (n + 1) 1,
      runFrom_of_retryable outcome verdict allowed]
    simp only [Run.prepend, turnTrace, outcome, List.append_assoc]
    rfl

/-! ## The end -/

/-- The ways a run ends with a call, after turns that left it open. -/
inductive Ends (n : Nat) : Run σ (Except (RetryError ε) α) → Prop
  | succeeded {value : α} (outcome : (callAt operation state n).value = .ok value) :
    Ends n
      { result := .ok value
        state := (callAt operation state n).state
        trace := policy.turnsTrace label operation classify state n ++
          .call (callAt operation state n).events ::
            (if 0 < n then [.note (succeededEvent label (UInt32.ofNat (n + 1)))] else []) }
  | permanent {e : ε} (outcome : (callAt operation state n).value = .error e)
      (verdict : (classify e).value = .permanent) :
    Ends n
      { result := .error (.permanent (UInt32.ofNat (n + 1)) e)
        state := (callAt operation state n).state
        trace := policy.turnsTrace label operation classify state n ++
          .call (callAt operation state n).events :: .judge (classify e).events ::
            (if 0 < n then [.note (gaveUpEvent label (UInt32.ofNat (n + 1)) (errorText e))]
            else []) }
  | exhausted {e : ε} (outcome : (callAt operation state n).value = .error e)
      (verdict : (classify e).value = .retryable) (up : n + 1 = policy.config.maxAttempts.toNat) :
    Ends n
      { result := .error (.exhausted policy.config.maxAttempts e)
        state := (callAt operation state n).state
        trace := policy.turnsTrace label operation classify state n ++
          [.call (callAt operation state n).events, .judge (classify e).events,
            .note (failedEvent label policy.config.maxAttempts (errorText e)),
            .note (gaveUpEvent label policy.config.maxAttempts (errorText e))] }

omit [HasCause ε] in
/-- The call that ends a run settles it or is the last one allowed. -/
theorem exists_last_call :
    ∃ n < policy.config.maxAttempts.toNat,
      Unsettled operation classify state n ∧
        (Settles classify (callAt operation state n).value ∨
          n + 1 = policy.config.maxAttempts.toNat) := by
  classical
  have positive := policy.maxAttempts_pos
  -- The first call that settles the run, among those allowed, or else the last one allowed.
  by_cases settled : ∃ n < policy.config.maxAttempts.toNat,
      Settles classify (callAt operation state n).value
  · refine ⟨Nat.find settled, (Nat.find_spec settled).1, fun m hm h => ?_,
      .inl (Nat.find_spec settled).2⟩
    exact Nat.find_min settled hm ⟨hm.trans (Nat.find_spec settled).1, h⟩
  · refine ⟨policy.config.maxAttempts.toNat - 1, by omega, fun m hm h => ?_, .inr (by omega)⟩
    exact settled ⟨m, by omega, h⟩

/-- What a run is: some calls that leave it open, and one that ends it. -/
theorem run_ends :
    ∃ n < policy.config.maxAttempts.toNat,
      Unsettled operation classify state n ∧
        policy.Ends label operation classify state n
          (policy.run label operation classify state) := by
  obtain ⟨n, hn, unsettled, last⟩ := policy.exists_last_call operation classify state
  have fits : n + 1 < UInt32.size := by have := policy.maxAttempts_lt; omega
  refine ⟨n, hn, unsettled, ?_⟩
  rw [policy.run_eq_prepend label operation classify state n hn unsettled]
  cases outcome : (callAt operation state n).value with
  | ok value =>
    rw [runFrom_of_ok outcome]
    simp only [one_lt_attempt_iff fits]
    exact .succeeded outcome
  | error e =>
    cases verdict : (classify e).value with
    | permanent =>
      rw [runFrom_of_permanent outcome verdict]
      simp only [one_lt_attempt_iff fits]
      exact .permanent outcome verdict
    | retryable =>
      have up : n + 1 = policy.config.maxAttempts.toNat :=
        last.resolve_left (outcome ▸ not_settles_of_retryable verdict)
      have number : UInt32.ofNat (n + 1) = policy.config.maxAttempts := by
        rw [up, UInt32.ofNat_toNat]
      rw [number, runFrom_of_exhausted outcome verdict (UInt32.lt_irrefl _)]
      exact .exhausted outcome verdict up

end RetryPolicy

end SteadyStore
