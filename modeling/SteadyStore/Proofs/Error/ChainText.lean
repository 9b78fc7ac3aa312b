import SteadyStore.Proofs.Cause.Description
import SteadyStore.Proofs.Cause.FirstStatus
import SteadyStore.Proofs.Error.Verdict
/-!
# What errors say about their causes

The description of an error is what each error of its chain says, from the error itself to the last
source (`HasChain.describe_eq`). So a layer with a message of its own adds that message in front and
nothing else, and a layer without one adds nothing: an envelope, or a service that wraps an error of a
store (`description_follows_chain`).
-/

namespace SteadyStore

namespace Cause

/-! ## The chain of an error -/

/-- The error, its source, the source of that one, and so on down to an error that has none. -/
inductive HasChain : Cause → List Cause → Prop
  | root {e : Cause} : e.source? = none → HasChain e [e]
  | caused {e source : Cause} {chain : List Cause} :
    e.source? = some source → HasChain source chain → HasChain e (e :: chain)

theorem exists_hasChain (cause : Cause) : ∃ chain, cause.HasChain chain := by
  obtain ⟨head, below⟩ := cause
  -- The source of an error is what is left of its links behind the first.
  induction below generalizing head with
  | nil => exact ⟨_, .root rfl⟩
  | cons link below ih =>
    obtain ⟨chain, inner⟩ := ih link
    exact ⟨_, .caused rfl inner⟩

/-- Each link of a chain is the head of one of its errors. -/
theorem HasChain.links_eq {cause : Cause} {chain : List Cause} (h : cause.HasChain chain) :
    cause.links = chain.map head := by
  induction h with
  | root none =>
    rw [Cause.links_eq, none]
    rfl
  | caused some _ ih =>
    rw [Cause.links_eq, some, List.map_cons, ← ih]
    rfl

theorem HasChain.describe_eq {cause : Cause} {chain : List Cause} (h : cause.HasChain chain) :
    cause.describe = " ".intercalate (chain.map fun e => "caused by " ++ e.text) := by
  rw [describe_eq_intercalate, h.links_eq, List.map_map]
  rfl

/-! ## One layer -/

/-- What the source of an error adds to the description of the error. -/
def describeSource : Option Cause → String
  | none => ""
  | some source => " " ++ source.describe

theorem describe_wrapOver (message : String) (source? : Option Cause) :
    (wrapOver message source?).describe = "caused by " ++ message ++ describeSource source? := by
  cases source? with
  | none =>
    have alone : (wrapOver message none).HasChain [wrapOver message none] := .root rfl
    rw [alone.describe_eq, List.map_singleton, String.intercalate_singleton, describeSource,
      String.append_empty]
    rfl
  | some source =>
    rw [describeSource, ← String.append_assoc]
    exact describe_wrap message source

/-- An error of conversion has no source of its own. -/
theorem describe_wrap_conversion (message : String) (e : ConversionError) :
    ((HasCause.cause e).wrap message).describe =
      "caused by " ++ message ++ " " ++ ("caused by " ++ e.message) := by
  have inner : (HasCause.cause e).describe = "caused by " ++ e.message :=
    (describe_wrapOver e.message none).trans String.append_empty
  rw [describe_wrap, inner]

/-- An envelope shows the text of the error inside as its own, and has the same source. -/
theorem describe_enclose (cause : Cause) : cause.enclose.describe = cause.describe := by
  rw [describe_eq_intercalate, describe_eq_intercalate]
  rfl

/-! ## Many layers -/

/-- Layers are described from the outermost. -/
theorem describe_buried (code : StatusCode) (depth : Nat) :
    (buried code depth).describe =
      " ".intercalate
        (((List.range depth).reverse.map fun level => "caused by " ++ ("layer " ++ toString level)) ++
          ["caused by " ++ (Status.ofCode code).text]) := by
  induction depth with
  | zero =>
    rw [describe_eq_intercalate]
    rfl
  | succ depth ih =>
    have outermost : (List.range (depth + 1)).reverse = depth :: (List.range depth).reverse := by
      rw [List.range_succ, List.reverse_append, List.reverse_singleton, List.singleton_append]
    rw [buried, describe_wrap, ih, outermost, List.map_cons, List.cons_append,
      String.intercalate_cons_of_ne_nil (by simp)]

/-- The outer error is described by some messages and then as the inner one is. -/
def EndsAs (outer inner : Cause) : Prop :=
  ∃ messages : List String, outer.describe =
    " ".intercalate (messages.map (fun message => "caused by " ++ message) ++ [inner.describe])

theorem EndsAs.wrap {outer inner : Cause} (ends : outer.EndsAs inner) (message : String) :
    (outer.wrap message).EndsAs inner := by
  obtain ⟨messages, below⟩ := ends
  refine ⟨message :: messages, ?_⟩
  rw [describe_wrap, below, List.map_cons, List.cons_append,
    String.intercalate_cons_of_ne_nil (by simp)]

/-- Whatever is put around an error, its own description comes last. -/
theorem Keeps.endsAs {inner outer : Cause} (h : inner.Keeps outer) : outer.EndsAs inner := by
  induction h with
  | itself => exact ⟨[], String.intercalate_singleton.symm⟩
  | wrap message _ ih => exact ih.wrap message
  | failed message _ ih => exact ih.wrap message
  | contention schema _ ih => exact ih.wrap _
  | run e _ ih => exact ih.wrap e.text
  | write e _ ih => exact ih.wrap e.text
  | serviceStore _ _ ih => exact ih
  | serviceWrite _ _ ih => exact ih

end Cause

/-! ## Errors of stores -/

namespace StoreError

open Cause (describeSource describe_wrapOver)

/-- What stands below the error. -/
def source? : StoreError → Option Cause
  | .contention _ source => some source
  | .failed _ source? => source?
  | .conversion e => some (HasCause.cause e)
  | .multipleResults _ _ => none
  | .invalidFieldPath _ => none

theorem describe_eq (e : StoreError) :
    chainText e = "caused by " ++ e.text ++ describeSource e.source? := by
  cases e with
  | contention schema source => exact describe_wrapOver _ (some source)
  | failed message source? => exact describe_wrapOver message source?
  | conversion e => exact describe_wrapOver _ (some (HasCause.cause e))
  | multipleResults doc count => exact describe_wrapOver _ none
  | invalidFieldPath schema => exact describe_wrapOver _ none

/-- Whatever the verdict, the store's error stands on top of what the write failed with. -/
theorem source?_ofFailedWrite (doc : Address) (source : Cause) :
    (ofFailedWrite doc source).value.source? = some source := by
  cases verdict : source.signal.value with
  | retryable =>
    rw [ofFailedWrite_of_retryable doc verdict]
    rfl
  | permanent =>
    rw [ofFailedWrite_of_permanent doc verdict]
    rfl

theorem describe_ofFailedWrite (doc : Address) (source : Cause) :
    chainText (ofFailedWrite doc source).value =
      "caused by " ++ (ofFailedWrite doc source).value.text ++ " " ++ source.describe := by
  rw [describe_eq, source?_ofFailedWrite, describeSource, ← String.append_assoc]

end StoreError

/-! ## All errors -/

/-- An error is described by what each error of its chain says, in this order, with one blank in
between, whatever the messages are. What is put around it adds what it says itself, if anything. -/
theorem Cause.description_follows_chain (cause : Cause) :
    (∃ chain, cause.HasChain chain) ∧
    (∀ chain, cause.HasChain chain →
      cause.describe = " ".intercalate (chain.map fun e => "caused by " ++ e.text)) ∧
    (∀ message, (cause.wrap message).describe = "caused by " ++ message ++ " " ++ cause.describe) ∧
    (∀ outer, cause.Keeps outer → outer.EndsAs cause) ∧
    cause.enclose.describe = cause.describe ∧
    -- A service shows the errors of a store and failed writes unchanged.
    (∀ e : StoreError, chainText (ServiceError.store e) = chainText e) ∧
    (∀ e : WriteFailure, chainText (ServiceError.writeFailure e) = chainText e) ∧
    (∀ code depth, (buried code depth).describe =
      " ".intercalate
        (((List.range depth).reverse.map fun level => "caused by " ++ ("layer " ++ toString level)) ++
          ["caused by " ++ (Status.ofCode code).text])) ∧
    (∀ doc, let e := (StoreError.ofFailedWrite doc cause).value
      chainText e = "caused by " ++ e.text ++ " " ++ cause.describe) ∧
    -- The text of a failed conversion is shown by what reports it, and then as its source.
    ∀ e : ConversionError,
      chainText (StoreError.conversion e) =
        "caused by " ++ ("Failed to convert document: " ++ e.message) ++ " " ++
          ("caused by " ++ e.message) ∧
      chainText (ServiceError.conversion e) =
        "caused by " ++ ("Serialization error: " ++ e.message) ++ " " ++
          ("caused by " ++ e.message) :=
  ⟨cause.exists_hasChain, fun _ => HasChain.describe_eq, fun message => describe_wrap message cause,
    fun _ => Keeps.endsAs, cause.describe_enclose, fun _ => rfl, fun _ => rfl, describe_buried,
    fun doc => StoreError.describe_ofFailedWrite doc cause,
    fun e => ⟨describe_wrap_conversion _ e, describe_wrap_conversion _ e⟩⟩

/-- Messages may be empty: neither a blank nor an error is missing. -/
example : chainText (StoreError.failed "" (some (Cause.wrap "" (.ofText "")))) =
    "caused by  caused by  caused by " :=
  rfl

end SteadyStore
