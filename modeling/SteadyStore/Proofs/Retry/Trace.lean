import Mathlib.Data.List.Basic
import SteadyStore.Proofs.Retry.Turns
/-!
# What a trace shows

Views of a run: its calls and sleeps in order (`Run.beats`), how many calls there were, which
delays were slept, and which events are the run's own. Each view of a turn is read off the turn,
and the view of a run follows for every way a run ends.
-/

namespace SteadyStore

variable {σ ε α : Type}

/-- A call or a sleep of a run, without what was logged. -/
inductive Beat
  | call
  | sleep (delay : Duration)
deriving DecidableEq

def Action.beat? : Action → Option Beat
  | .call _ => some .call
  | .sleep delay => some (.sleep delay)
  | _ => none

/-- The calls and sleeps of a run in order. -/
def Run.beats {ρ : Type} (run : Run σ ρ) : List Beat := run.trace.filterMap Action.beat?

/-- If the action is an event of the run itself, it comes from the retrying part. -/
def Action.IsRetryNote : Action → Prop
  | .note event => event.component = .retry
  | _ => True

namespace RetryPolicy

variable [HasCause ε] {policy : RetryPolicy} {label : String} {operation : σ → Step σ (Except ε α)}
  {classify : ε → Logged Signal} {state : σ} {n : Nat}

/-! ## Turns -/

/-- A view of the turns is the view of each turn. -/
theorem filterMap_turnsTrace {β : Type} (view : Action → Option β) (piece : Nat → List β)
    (turn : ∀ m < n,
      (policy.turnTrace label operation classify state m).filterMap view = piece m) :
    (policy.turnsTrace label operation classify state n).filterMap view =
      (List.range n).flatMap piece := by
  rw [turnsTrace, List.filterMap_flatMap]
  exact List.flatMap_congr fun m hm => turn m (List.mem_range.1 hm)

theorem beats_turnsTrace (unsettled : Unsettled operation classify state n) :
    (policy.turnsTrace label operation classify state n).filterMap Action.beat? =
      (List.range n).flatMap fun m =>
        [.call, .sleep (policy.delayAfter (UInt32.ofNat (m + 1)))] := by
  refine filterMap_turnsTrace _ _ fun m hm => ?_
  obtain ⟨e, outcome, -⟩ := exists_error_of_not_settles (unsettled m hm)
  simp only [turnTrace, outcome]
  rfl

theorem sleeps_turnsTrace (unsettled : Unsettled operation classify state n) :
    (policy.turnsTrace label operation classify state n).filterMap Action.sleep? =
      (List.range n).map fun m => policy.delayAfter (UInt32.ofNat (m + 1)) := by
  rw [List.map_eq_flatMap]
  refine filterMap_turnsTrace _ _ fun m hm => ?_
  obtain ⟨e, outcome, -⟩ := exists_error_of_not_settles (unsettled m hm)
  simp only [turnTrace, outcome]
  rfl

theorem calls_turnsTrace (unsettled : Unsettled operation classify state n) :
    (policy.turnsTrace label operation classify state n).countP Action.isCall = n := by
  induction n with
  | zero => rfl
  | succ n ih =>
    obtain ⟨earlier, e, outcome, -⟩ := unsettled.split
    rw [turnsTrace_succ, List.countP_append, ih earlier]
    simp only [turnTrace, outcome]
    rfl

theorem isRetryNote_of_mem_turnsTrace :
    ∀ action ∈ policy.turnsTrace label operation classify state n, action.IsRetryNote := by
  intro action member
  obtain ⟨m, -, member⟩ := List.mem_flatMap.1 member
  rw [turnTrace] at member
  split at member
  · simp at member
  · simp only [List.mem_cons, List.not_mem_nil, or_false] at member
    rcases member with rfl | rfl | rfl | rfl | rfl
    exacts [trivial, trivial, rfl, rfl, trivial]

/-! ## Runs -/

section Ends
variable {run : Run σ (Except (RetryError ε) α)}
  (ends : policy.Ends label operation classify state n run)

include ends

theorem Ends.state_eq : run.state = stateAt operation state (n + 1) := by
  rw [stateAt_succ]
  cases ends <;> rfl

theorem Ends.isRetryNote_of_mem : ∀ action ∈ run.trace, action.IsRetryNote := by
  cases ends <;> refine List.forall_mem_append.2 ⟨isRetryNote_of_mem_turnsTrace, ?_⟩ <;>
    simp only [List.forall_mem_cons]
  · refine ⟨trivial, ?_⟩
    split <;> simp [Action.IsRetryNote, succeededEvent, retryEvent]
  · refine ⟨trivial, trivial, ?_⟩
    split <;> simp [Action.IsRetryNote, gaveUpEvent, retryEvent]
  · exact ⟨trivial, trivial, rfl, rfl, by simp⟩

variable (unsettled : Unsettled operation classify state n)

include unsettled

theorem Ends.calls_eq : run.calls = n + 1 := by
  cases ends <;> rw [Run.calls, List.countP_append, calls_turnsTrace unsettled]
  · split <;> rfl
  · split <;> rfl
  · rfl

theorem Ends.sleeps_eq :
    run.sleeps = (List.range n).map fun m => policy.delayAfter (UInt32.ofNat (m + 1)) := by
  cases ends <;> rw [Run.sleeps, List.filterMap_append, sleeps_turnsTrace unsettled]
  · split <;> exact List.append_nil _
  · split <;> exact List.append_nil _
  · exact List.append_nil _

theorem Ends.beats_eq :
    run.beats =
      ((List.range n).flatMap fun m =>
        [.call, .sleep (policy.delayAfter (UInt32.ofNat (m + 1)))]) ++ [.call] := by
  cases ends <;> rw [Run.beats, List.filterMap_append, beats_turnsTrace unsettled]
  · split <;> rfl
  · split <;> rfl
  · rfl

end Ends

end RetryPolicy

end SteadyStore
