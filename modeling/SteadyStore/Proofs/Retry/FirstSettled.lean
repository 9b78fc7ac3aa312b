import SteadyStore.Proofs.Retry.Trace
/-!
# A run stops at the first outcome that settles it

The outcomes of the calls decide everything: a run makes calls up to the first outcome that
settles it, or as many as the policy allows if none of these does (`run_first_settled`). In
between it sleeps, and the number of the attempt is always one more than the calls made.
-/

namespace SteadyStore.RetryPolicy

/-- If calls are made up to the first one with a property, or as many as are allowed, the last call
is the first one with the property, when that comes in time. -/
theorem eq_last_of_isLeast {p : Nat → Prop} {n k allowed : Nat} (before : ∀ m < n, ¬p m)
    (last : ¬p n → n + 1 = allowed) (first : IsLeast {m | p m} k) (inTime : k < allowed) :
    k = n := by
  rcases Nat.lt_trichotomy k n with earlier | same | later
  · exact absurd first.1 (before k earlier)
  · exact same
  · have up := last fun reached => absurd (first.2 reached) (Nat.not_le.2 later)
    omega

variable {σ ε α : Type} [HasCause ε]

section Ends
variable {policy : RetryPolicy} {label : String} {operation : σ → Step σ (Except ε α)}
  {classify : ε → Logged Signal} {state : σ} {n : Nat} {run : Run σ (Except (RetryError ε) α)}
  (ends : policy.Ends label operation classify state n run)

include ends

/-- A value is handed on, and a failure that another attempt cannot help is handed on with the
number of its attempt. -/
theorem Ends.result_of_settles (hn : n < policy.config.maxAttempts.toNat)
    (settled : Settles classify (callAt operation state n).value) :
    match (callAt operation state n).value with
    | .ok value => run.result = .ok value
    | .error e => ∃ attempts : UInt32, attempts.toNat = n + 1 ∧
        run.result = .error (.permanent attempts e) := by
  have bound := policy.maxAttempts_lt
  cases ends with
  | succeeded outcome => rw [outcome]
  | permanent outcome =>
    rw [outcome]
    exact ⟨_, toNat_attempt (by omega), rfl⟩
  | exhausted outcome verdict =>
    rw [outcome] at settled
    exact absurd settled (not_settles_of_retryable verdict)

/-- A call that leaves the run open ends it only as the last one allowed. -/
theorem Ends.result_of_not_settles
    (unsettled : ¬Settles classify (callAt operation state n).value) :
    n + 1 = policy.config.maxAttempts.toNat ∧
      ∃ e, (callAt operation state n).value = .error e ∧
        run.result = .error (.exhausted policy.config.maxAttempts e) := by
  cases ends with
  | succeeded outcome =>
    rw [outcome] at unsettled
    exact absurd trivial unsettled
  | permanent outcome verdict =>
    rw [outcome] at unsettled
    exact absurd verdict unsettled
  | exhausted outcome _ up => exact ⟨up, _, outcome, rfl⟩

/-- A run that fails hands on the error of its last call with the number of the calls. It is
exhausted when another attempt might have helped, which takes all the attempts allowed. -/
theorem Ends.of_error (hn : n < policy.config.maxAttempts.toNat) {source : RetryError ε}
    (failed : run.result = .error source) :
    (callAt operation state n).value = .error source.inner ∧ source.attempts.toNat = n + 1 ∧
      (source.isExhausted = true ↔ (classify source.inner).value = .retryable) ∧
      (source.isExhausted = true → source.attempts = policy.config.maxAttempts) := by
  have bound := policy.maxAttempts_lt
  cases ends with
  | succeeded => cases failed
  | permanent outcome verdict =>
    cases failed
    exact ⟨outcome, toNat_attempt (by omega), by simp [RetryError.isExhausted,
      RetryError.inner, verdict], fun exhausted => nomatch exhausted⟩
  | exhausted outcome verdict up =>
    cases failed
    exact ⟨outcome, up.symm, ⟨fun _ => verdict, fun _ => rfl⟩, fun _ => rfl⟩

/-- A last call that failed makes the run fail. -/
theorem Ends.failed_of_error {e : ε} (outcome : (callAt operation state n).value = .error e) :
    ∃ source, run.result = .error source := by
  cases ends with
  | succeeded handedOn =>
    rw [outcome] at handedOn
    cases handedOn
  | permanent => exact ⟨_, rfl⟩
  | exhausted => exact ⟨_, rfl⟩

end Ends

/-- A run makes calls up to the first outcome that settles it, and hands that outcome on. If none
of the calls that the policy allows has such an outcome, it makes all of them, and hands on the
failure of the last one. Each call but the last is followed by one sleep, with the delay of its
attempt. The number of the attempt counts the calls exactly: it never wraps around. -/
theorem run_first_settled (policy : RetryPolicy) (label : String)
    (operation : σ → Step σ (Except ε α)) (classify : ε → Logged Signal) (state : σ) :
    let run := policy.run label operation classify state
    let outcome := fun n => (callAt operation state n).value
    let allowed := policy.config.maxAttempts.toNat
    let delay := fun n => policy.delayAfter (UInt32.ofNat (n + 1))
    -- The first outcome that settles the run comes in time.
    (∀ n, IsLeast {m | Settles classify (outcome m)} n → n < allowed →
      run.calls = n + 1 ∧
        match outcome n with
        | .ok value => run.result = .ok value
        | .error e => ∃ attempts : UInt32, attempts.toNat = n + 1 ∧
            run.result = .error (.permanent attempts e)) ∧
    -- No outcome settles it in time.
    ((∀ n < allowed, ¬Settles classify (outcome n)) →
      run.calls = allowed ∧ ∃ e, outcome (allowed - 1) = .error e ∧
        run.result = .error (.exhausted policy.config.maxAttempts e)) ∧
    -- The calls are the first of the sequence, with the sleeps in between.
    run.state = stateAt operation state run.calls ∧
    run.sleeps = (List.range (run.calls - 1)).map delay ∧
    run.beats =
      ((List.range (run.calls - 1)).flatMap fun n => [.call, .sleep (delay n)]) ++ [.call] ∧
    -- Before each call the number of the attempt is one more than the calls made.
    run.calls ≤ allowed ∧
    ∀ n < run.calls, ∃ (attempt : UInt32) (before : List Action),
      attempt.toNat = n + 1 ∧ before.countP Action.isCall = n ∧
      run.trace = before ++
        (policy.runFrom label operation classify attempt (stateAt operation state n)).trace ∧
      (n + 1 < run.calls → (attempt + 1).toNat = attempt.toNat + 1) := by
  intro run outcome allowed delay
  obtain ⟨n, hn, unsettled, ends⟩ := policy.run_ends label operation classify state
  have calls : run.calls = n + 1 := ends.calls_eq unsettled
  have bound : allowed < UInt32.size := policy.maxAttempts_lt
  refine ⟨fun k first inTime => ?_, fun never => ?_, ?_, ?_, ?_, ?_, fun k hk => ?_⟩
  · obtain rfl := eq_last_of_isLeast unsettled (fun h => (ends.result_of_not_settles h).1)
      first inTime
    exact ⟨calls, ends.result_of_settles inTime first.1⟩
  · obtain ⟨up, e, last, result⟩ := ends.result_of_not_settles (never n hn)
    refine ⟨calls.trans up, e, ?_, result⟩
    rw [show allowed - 1 = n by omega]
    exact last
  · rw [calls]
    exact ends.state_eq
  · rw [calls]
    exact ends.sleeps_eq unsettled
  · rw [calls]
    exact ends.beats_eq unsettled
  · omega
  · -- The calls before leave the run open, so the run gets to the attempt that follows them.
    have earlier : Unsettled operation classify state k := fun m hm => unsettled m (by omega)
    refine ⟨UInt32.ofNat (k + 1), policy.turnsTrace label operation classify state k,
      toNat_attempt (by omega), calls_turnsTrace earlier, ?_, fun more => ?_⟩
    · exact congrArg Run.trace (policy.run_eq_prepend label operation classify state k (by omega)
        earlier)
    · have notLast : UInt32.ofNat (k + 1) < policy.config.maxAttempts := by
        rw [UInt32.lt_iff_toNat_lt, toNat_attempt (by omega)]
        omega
      exact toNat_add_one_of_lt notLast

end SteadyStore.RetryPolicy
