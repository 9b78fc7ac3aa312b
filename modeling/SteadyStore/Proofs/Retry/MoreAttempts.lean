import SteadyStore.Proofs.Retry.FirstSettled
/-!
# More attempts change only what they come for

Two policies that wait alike may differ in how often they try (`AllowsMore`). Their runs take the same
turns, so a run that ends before its attempts are up ends the same way when more are allowed
(`Ends.of_settles`), and a run that is exhausted all the same has gone through everything that the
shorter one slept (`run_of_more_attempts`).
-/

namespace SteadyStore

variable {σ ε α : Type}

/-- The run gave up because its attempts were up. -/
def Run.IsExhausted (run : Run σ (Except (RetryError ε) α)) : Prop :=
  ∃ source, run.result = .error source ∧ source.isExhausted = true

namespace RetryPolicy

/-- The second policy differs from the first at most in that it allows more attempts. -/
structure AllowsMore (fewer more : RetryPolicy) : Prop where
  initialDelay_eq : more.config.initialDelay = fewer.config.initialDelay
  multiplier_eq : more.config.multiplier = fewer.config.multiplier
  maxDelay_eq : more.config.maxDelay = fewer.config.maxDelay
  le : fewer.config.maxAttempts ≤ more.config.maxAttempts

/-- The policy with another number of attempts. -/
def withAttempts (policy : RetryPolicy) (maxAttempts : UInt32) (positive : 1 ≤ maxAttempts) :
    RetryPolicy :=
  ⟨{ policy.config with maxAttempts }, { policy.valid with attempts := positive }⟩

theorem allowsMore_withAttempts (policy : RetryPolicy) {m n : UInt32} (hm : 1 ≤ m) (hn : 1 ≤ n)
    (le : m ≤ n) : (policy.withAttempts m hm).AllowsMore (policy.withAttempts n hn) :=
  ⟨rfl, rfl, rfl, le⟩

variable [HasCause ε] {label : String} {operation : σ → Step σ (Except ε α)}
  {classify : ε → Logged Signal} {state : σ} {n : Nat}

/-! ## The same turns -/

section AllowsMore
variable {fewer more : RetryPolicy} (allows : fewer.AllowsMore more)

include allows

theorem AllowsMore.toNat_le :
    fewer.config.maxAttempts.toNat ≤ more.config.maxAttempts.toNat :=
  UInt32.le_iff_toNat_le.1 allows.le

theorem AllowsMore.delayAfter_eq (attempt : UInt32) :
    more.delayAfter attempt = fewer.delayAfter attempt := by
  have seconds : more.backoffSeconds attempt = fewer.backoffSeconds attempt := by
    rw [backoffSeconds, backoffSeconds, allows.initialDelay_eq, allows.multiplier_eq]
  rw [delayAfter, delayAfter, seconds, allows.maxDelay_eq]

theorem AllowsMore.turnsTrace_eq :
    more.turnsTrace label operation classify state n =
      fewer.turnsTrace label operation classify state n := by
  refine List.flatMap_congr fun m _ => ?_
  simp only [turnTrace, allows.delayAfter_eq]

/-- A call that settles a run ends it in the same way, however many more are allowed. -/
theorem Ends.of_settles {run : Run σ (Except (RetryError ε) α)}
    (settled : Settles classify (callAt operation state n).value)
    (ends : fewer.Ends label operation classify state n run) :
    more.Ends label operation classify state n run := by
  cases ends with
  | succeeded outcome =>
    rw [← allows.turnsTrace_eq]
    exact .succeeded outcome
  | permanent outcome verdict =>
    rw [← allows.turnsTrace_eq]
    exact .permanent outcome verdict
  | exhausted outcome verdict =>
    rw [outcome] at settled
    exact absurd settled (not_settles_of_retryable verdict)

end AllowsMore

/-! ## Ends -/

section Ends
variable {policy : RetryPolicy} {run other : Run σ (Except (RetryError ε) α)}

/-- A run is told by the call that ends it. -/
theorem Ends.eq (ends : policy.Ends label operation classify state n run)
    (same : policy.Ends label operation classify state n other) : run = other := by
  cases ends with
  | succeeded outcome =>
    cases same with
    | succeeded outcome' =>
      cases outcome.symm.trans outcome'
      rfl
    | permanent outcome' => cases outcome.symm.trans outcome'
    | exhausted outcome' => cases outcome.symm.trans outcome'
  | permanent outcome verdict =>
    cases same with
    | succeeded outcome' => cases outcome.symm.trans outcome'
    | permanent outcome' =>
      cases outcome.symm.trans outcome'
      rfl
    | exhausted outcome' verdict' =>
      cases outcome.symm.trans outcome'
      cases verdict.symm.trans verdict'
  | exhausted outcome verdict =>
    cases same with
    | succeeded outcome' => cases outcome.symm.trans outcome'
    | permanent outcome' verdict' =>
      cases outcome.symm.trans outcome'
      cases verdict.symm.trans verdict'
    | exhausted outcome' =>
      cases outcome.symm.trans outcome'
      rfl

theorem Ends.isExhausted_iff (ends : policy.Ends label operation classify state n run) :
    run.IsExhausted ↔ ¬Settles classify (callAt operation state n).value := by
  constructor
  · rintro ⟨source, failed, exhausted⟩ settled
    cases ends with
    | succeeded => cases failed
    | permanent =>
      cases failed
      cases exhausted
    | exhausted outcome verdict =>
      rw [outcome] at settled
      exact not_settles_of_retryable verdict settled
  · intro unsettled
    obtain ⟨-, e, -, failed⟩ := ends.result_of_not_settles unsettled
    exact ⟨_, failed, rfl⟩

end Ends

/-! ## Both runs -/

/-- A policy that allows more attempts changes nothing about a run that ends before its attempts are
up: the result with its attempts, the calls, the sleeps and all that is logged are the same. A run that
is exhausted even so is exhausted by fewer attempts too, with the failure of the last of them, and
sleeps in addition to what the shorter run sleeps. -/
theorem run_of_more_attempts {fewer more : RetryPolicy} (allows : fewer.AllowsMore more)
    (label : String) (operation : σ → Step σ (Except ε α)) (classify : ε → Logged Signal) (state : σ) :
    let short := fewer.run label operation classify state
    let long := more.run label operation classify state
    let allowed := fewer.config.maxAttempts
    (¬short.IsExhausted → long = short) ∧
    (long.IsExhausted →
      short.calls = allowed.toNat ∧
      (∃ e, (callAt operation state (allowed.toNat - 1)).value = .error e ∧
        short.result = .error (.exhausted allowed e)) ∧
      short.sleeps <+: long.sleeps) := by
  intro short long allowed
  obtain ⟨n, hn, unsettled, ends⟩ := fewer.run_ends label operation classify state
  obtain ⟨k, hk, leftOpen, endsLong⟩ := more.run_ends label operation classify state
  have more_le := allows.toNat_le
  refine ⟨fun notExhausted => ?_, fun exhausted => ?_⟩
  · -- The call that ends the short run is the first that settles one, so the long run ends there too.
    have settled : Settles classify (callAt operation state n).value :=
      not_not.1 fun h => notExhausted (ends.isExhausted_iff.2 h)
    have first : IsLeast {m | Settles classify (callAt operation state m).value} n :=
      ⟨settled, fun m hm => Nat.not_lt.1 fun earlier => unsettled m earlier hm⟩
    obtain rfl : n = k := eq_last_of_isLeast leftOpen
      (fun h => (endsLong.result_of_not_settles h).1) first (by omega)
    exact endsLong.eq (ends.of_settles allows settled)
  · -- No call of the long run settles it, and the short run makes the first of these calls.
    have last := endsLong.isExhausted_iff.1 exhausted
    have up := (endsLong.result_of_not_settles last).1
    have stillOpen : ¬Settles classify (callAt operation state n).value := by
      rcases Nat.lt_or_ge n k with earlier | late
      · exact leftOpen n earlier
      · obtain rfl : n = k := by omega
        exact last
    obtain ⟨shortUp, e, outcome, result⟩ := ends.result_of_not_settles stillOpen
    refine ⟨(ends.calls_eq unsettled).trans shortUp, ⟨e, ?_, result⟩, ?_⟩
    · rw [← shortUp, Nat.add_sub_cancel]
      exact outcome
    · rw [ends.sleeps_eq unsettled, endsLong.sleeps_eq leftOpen]
      simp only [allows.delayAfter_eq]
      obtain ⟨extra, rfl⟩ : ∃ extra, k = n + extra := ⟨k - n, by omega⟩
      rw [List.range_add, List.map_append]
      exact List.prefix_append _ _

/-- An operation that is busy for some calls and then answers. -/
def busyFor : Nat → Step Nat (Except Cause String)
  | 0 => ⟨.ok "stored", 0, []⟩
  | n + 1 => ⟨.error (.ofText "busy"), n, []⟩

theorem run_of_more_attempts_busy :
    let fewer := RetryPolicy.default.withAttempts 3 (by decide)
    let more := RetryPolicy.default.withAttempts 5 (by decide)
    let run := fun (policy : RetryPolicy) busy =>
      policy.run "write" busyFor (fun _ => pure .retryable) busy
    fewer.AllowsMore more ∧
      (¬(run fewer 2).IsExhausted ∧ run more 2 = run fewer 2) ∧
      (run more 9).IsExhausted ∧ (run fewer 9).calls = 3 ∧
        (run fewer 9).sleeps <+: (run more 9).sleeps := by
  intro fewer more run
  have allows : fewer.AllowsMore more := RetryPolicy.default.allowsMore_withAttempts _ _ (by decide)
  have answered : (run fewer 2).result = .ok "stored" := by decide +kernel
  have notExhausted : ¬(run fewer 2).IsExhausted := by
    rintro ⟨source, failed, -⟩
    cases answered.symm.trans failed
  have failed : (run more 9).result = .error (.exhausted 5 (.ofText "busy")) := by decide +kernel
  have exhausted : (run more 9).IsExhausted := ⟨_, failed, rfl⟩
  obtain ⟨same, -⟩ := run_of_more_attempts allows "write" busyFor (fun _ => pure .retryable) 2
  obtain ⟨-, shorter⟩ := run_of_more_attempts allows "write" busyFor (fun _ => pure .retryable) 9
  obtain ⟨calls, -, sleeps⟩ := shorter exhausted
  exact ⟨allows, ⟨notExhausted, same notExhausted⟩, exhausted, calls, sleeps⟩

end RetryPolicy

end SteadyStore
