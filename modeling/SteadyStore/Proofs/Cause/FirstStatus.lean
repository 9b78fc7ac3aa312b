import SteadyStore.Error.Service
/-!
# The first status of a chain

A chain is classified by its first status alone (`signal_of_firstStatus`), or is permanent and
logs nothing when it has none (`signal_of_no_status`). So whatever stands in front of the first
status or below it makes no difference: an error can be wrapped as often as one likes
(`Keeps.signal`), but an envelope that hides the error itself hides its status too
(`signal_enclose`).
-/

namespace SteadyStore

/-- What a status says about a chain it is the first status of. -/
def Status.judged (status : Status) : Logged Signal :=
  if status.code.isRetryable then pure .retryable else ⟨.permanent, [status.reported]⟩

theorem Status.value_judged (status : Status) :
    status.judged.value = .retryable ↔ status.code.isRetryable = true := by
  unfold judged
  split <;> simp_all

theorem Status.events_judged (status : Status) :
    status.judged.events = if status.code.isRetryable then [] else [status.reported] := by
  unfold judged
  split <;> rfl

namespace Cause

variable {cause other inner outer : Cause} {status : Status}

/-! ## The sequence of causes -/

/-- The cause of the error, on top of its own causes. -/
def source? (cause : Cause) : Option Cause :=
  match cause.below with
  | [] => none
  | link :: below => some ⟨link, below⟩

theorem links_eq (cause : Cause) :
    cause.links = cause.head :: (cause.source?.map links).getD [] := by
  obtain ⟨head, below⟩ := cause
  cases below <;> rfl

/-- The first status of the chain: no link in front of it is one. -/
def FirstStatus (cause : Cause) (status : Status) : Prop :=
  ∃ before below, cause.links = before ++ .status status :: below ∧
    ∀ link ∈ before, link.status? = none

theorem firstStatus_iff :
    cause.FirstStatus status ↔ cause.links.findSome? Link.status? = some status := by
  rw [List.findSome?_eq_some_iff]
  constructor
  · rintro ⟨before, below, links, plain⟩
    exact ⟨before, .status status, below, links, rfl, plain⟩
  · rintro ⟨before, link, below, links, found, plain⟩
    cases link with
    | plain message => cases found
    | status s =>
      obtain rfl := Option.some.inj found
      exact ⟨before, below, links, plain⟩

/-! ## What decides -/

/-- The walk down a chain is the search for its first status. -/
theorem signalOfLinks_eq (links : List Link) :
    signalOfLinks links =
      ((links.findSome? Link.status?).map Status.judged).getD (pure .permanent) := by
  induction links with
  | nil => rfl
  | cons link below ih =>
    cases link with
    | plain message => exact ih
    | status s =>
      dsimp only [signalOfLinks, List.findSome?_cons, Link.status?, Option.map_some,
        Option.getD_some, Status.judged]
      split <;> rfl

theorem signal_of_firstStatus (h : cause.FirstStatus status) : cause.signal = status.judged := by
  rw [signal, signalOfLinks_eq, firstStatus_iff.1 h]
  rfl

theorem signal_of_no_status (h : ∀ status, ¬ cause.FirstStatus status) :
    cause.signal = pure .permanent := by
  have none : cause.links.findSome? Link.status? = none :=
    Option.eq_none_iff_forall_ne_some.2 fun status found => h status (firstStatus_iff.2 found)
  rw [signal, signalOfLinks_eq, none]
  rfl

theorem signal_retryable_iff :
    cause.signal.value = .retryable ↔
      ∃ status, cause.FirstStatus status ∧ status.code.isRetryable = true := by
  by_cases h : ∃ status, cause.FirstStatus status
  · obtain ⟨status, first⟩ := h
    rw [signal_of_firstStatus first, Status.value_judged]
    constructor
    · exact fun retryable => ⟨status, first, retryable⟩
    · rintro ⟨other, found, retryable⟩
      have same : some status = some other :=
        (firstStatus_iff.1 first).symm.trans (firstStatus_iff.1 found)
      rwa [Option.some.inj same]
  · rw [signal_of_no_status (not_exists.1 h)]
    constructor
    · intro permanent
      cases permanent
    · rintro ⟨status, found, -⟩
      exact absurd ⟨status, found⟩ h

theorem events_of_permanent_status (first : cause.FirstStatus status)
    (permanent : status.code.isRetryable = false) : cause.signal.events = [status.reported] := by
  rw [signal_of_firstStatus first, Status.events_judged, permanent]
  rfl

theorem events_of_no_permanent_status
    (h : ∀ status, cause.FirstStatus status → status.code.isRetryable = true) :
    cause.signal.events = [] := by
  by_cases found : ∃ status, cause.FirstStatus status
  · obtain ⟨status, first⟩ := found
    rw [signal_of_firstStatus first, Status.events_judged, h status first]
    rfl
  · rw [signal_of_no_status (not_exists.1 found), Logged.events_pure]

/-! ## What makes no difference -/

/-- The outer error keeps the inner one as a link, under any number of layers none of which is a
status itself. -/
inductive Keeps (inner : Cause) : Cause → Prop
  | itself : Keeps inner inner
  /-- An error of the client, with a message of its own. -/
  | wrap (message : String) {outer : Cause} :
    Keeps inner outer → Keeps inner (outer.wrap message)
  | failed (message : String) {outer : Cause} :
    Keeps inner outer → Keeps inner (StoreError.failed message (some outer)).cause
  | contention (schema : String) {outer : Cause} :
    Keeps inner outer → Keeps inner (StoreError.contention schema outer).cause
  /-- A run of any operation that gave up. -/
  | run {ε : Type} [HasCause ε] (e : RetryError ε) :
    Keeps inner (HasCause.cause e.inner) → Keeps inner (HasCause.cause e)
  | write (e : WriteFailure) :
    Keeps inner (HasCause.cause e.source) → Keeps inner e.cause
  | serviceStore (e : StoreError) :
    Keeps inner e.cause → Keeps inner (ServiceError.store e).cause
  | serviceWrite (e : WriteFailure) :
    Keeps inner e.cause → Keeps inner (ServiceError.writeFailure e).cause

/-- Each layer is one plain link in front, or none. -/
theorem Keeps.signal (h : inner.Keeps outer) : outer.signal = inner.signal := by
  induction h with
  | itself => rfl
  | wrap message _ ih => exact (signal_wrap message _).trans ih
  | failed message _ ih => exact (signal_wrap message _).trans ih
  | contention schema _ ih => exact (signal_wrap _ _).trans ih
  | run e _ ih => exact (signal_wrap e.text _).trans ih
  | write e _ ih => exact (signal_wrap e.text _).trans ih
  | serviceStore _ _ ih => exact ih
  | serviceWrite _ _ ih => exact ih

theorem keeps_buried (code : StatusCode) (depth : Nat) :
    (ofStatus (.ofCode code) none).Keeps (buried code depth) := by
  induction depth with
  | zero => exact .itself
  | succ depth ih => exact .wrap _ ih

theorem firstStatus_ofStatus (status : Status) (cause? : Option Cause) :
    (ofStatus status cause?).FirstStatus status :=
  ⟨[], _, rfl, by simp⟩

theorem signal_buried (code : StatusCode) (depth : Nat) :
    (buried code depth).signal.value = .retryable ↔ code.isRetryable = true := by
  rw [(keeps_buried code depth).signal, signal_of_firstStatus (firstStatus_ofStatus _ none)]
  exact Status.value_judged _

/-- An envelope is classified as what the error inside was caused by. -/
theorem signal_enclose (cause : Cause) :
    cause.enclose.signal = (cause.source?.map signal).getD (pure .permanent) := by
  obtain ⟨head, below⟩ := cause
  cases below <;> rfl

/-- An overload in an envelope is not seen. -/
example : (ofStatus (.ofCode .aborted) none).enclose.signal = pure .permanent := rfl

/-! ## All chains -/

/-- A chain is retryable exactly if its first status has one of four codes, and a first status
with another code is logged, which is all that is ever logged. -/
theorem signal_decided_by_first_status (cause : Cause) :
    -- The chain is the error, then its source, then the source of that one, and so on.
    cause.links = cause.head :: (cause.source?.map links).getD [] ∧
    (cause.signal.value = .retryable ↔ ∃ status, cause.FirstStatus status ∧
      status.code ∈ [.resourceExhausted, .aborted, .deadlineExceeded, .unavailable]) ∧
    (∀ status, cause.FirstStatus status →
      status.code ∉ [.resourceExhausted, .aborted, .deadlineExceeded, .unavailable] →
      cause.signal.events =
        [{ level := .info
           component := .contention
           message := "Status found in error chain, but it's not a retryable code"
           fields := [("status_code", .bare status.code.name),
             ("status_description", .text status.message)] }]) ∧
    ((¬ ∃ status, cause.FirstStatus status ∧
      status.code ∉ [.resourceExhausted, .aborted, .deadlineExceeded, .unavailable]) →
      cause.signal.events = []) ∧
    -- Neither what stands in front of the first status counts nor what lies below it.
    (∀ (other : Cause) (status : Status), cause.FirstStatus status → other.FirstStatus status →
      other.signal = cause.signal) ∧
    (∀ outer, cause.Keeps outer → outer.signal = cause.signal) ∧
    (∀ code depth, (buried code depth).signal.value = .retryable ↔
      code ∈ [.resourceExhausted, .aborted, .deadlineExceeded, .unavailable]) ∧
    -- An envelope forwards the source past the error inside.
    (∀ source, cause.source? = some source → cause.enclose.signal = source.signal) ∧
    (cause.source? = none → cause.enclose.signal = pure .permanent) := by
  simp only [← StatusCode.isRetryable_iff, Bool.not_eq_true]
  refine ⟨cause.links_eq, signal_retryable_iff, ?_, ?_, ?_, ?_, signal_buried, ?_, ?_⟩
  · exact fun status => events_of_permanent_status
  · intro h
    refine events_of_no_permanent_status fun status first => ?_
    cases code : status.code.isRetryable with
    | true => rfl
    | false => exact absurd ⟨status, first, code⟩ h
  · intro other status first found
    rw [signal_of_firstStatus first, signal_of_firstStatus found]
  · exact fun outer => Keeps.signal
  · intro source h
    rw [signal_enclose, h]
    rfl
  · intro h
    rw [signal_enclose, h]
    rfl

end Cause

end SteadyStore
