import SteadyStore.Event
import SteadyStore.Status
/-!
# Errors and their causes

An error stands at the head of a chain: each link is an error, and the next link
is what caused it. A link is either plain text or a status of the document
service. `Cause.describe` writes the chain on one line, and `Cause.signal`
decides from the first status in it whether another attempt can help.
-/

namespace SteadyStore

/-- One error of a chain. -/
inductive Link
  | plain (message : String)
  | status (status : Status)
deriving DecidableEq, Repr

namespace Link

def text : Link → String
  | .plain message => message
  | .status s => s.text

def status? : Link → Option Status
  | .plain _ => none
  | .status s => some s

end Link

/-- An error with the chain of its causes. -/
structure Cause where
  head : Link
  below : List Link
deriving DecidableEq, Repr

namespace Cause

/-! ## Building chains -/

/-- A message without a cause. -/
def ofText (message : String) : Cause := ⟨.plain message, []⟩

/-- The error itself, then its causes. -/
def links (cause : Cause) : List Link := cause.head :: cause.below

/-- A message on top of a chain. -/
def wrap (message : String) (cause : Cause) : Cause := ⟨.plain message, cause.links⟩

/-- A message on top of a chain, if there is one. -/
def wrapOver (message : String) (cause? : Option Cause) : Cause :=
  ⟨.plain message, (cause?.map links).getD []⟩

/-- A status, on top of a chain if there is one. -/
def ofStatus (status : Status) (cause? : Option Cause) : Cause :=
  ⟨.status status, (cause?.map links).getD []⟩

/-- An envelope that shows the text of the error inside and hands on its causes:
the error inside is no link of its own, so a status there is not seen. -/
def enclose (cause : Cause) : Cause := ⟨.plain cause.head.text, cause.below⟩

/-- The chain the service's client reports for a failed write. -/
def ofFailedWrite (code : StatusCode) : Cause :=
  wrap "execution failed" (wrap "write rejected" (ofStatus (.ofCode code) none))

/-- A status of the given code under layers numbered from the innermost. -/
def buried (code : StatusCode) : Nat → Cause
  | 0 => ofStatus (.ofCode code) none
  | depth + 1 => wrap ("layer " ++ toString depth) (buried code depth)

/-- The text of the error itself. -/
def text (cause : Cause) : String := cause.head.text

/-! ## Describing a chain -/

/-- Adds a link to a description: a blank goes in front unless it is the first. -/
def describeLink (description : String) (link : Link) : String :=
  (if description.isEmpty then description else description ++ " ") ++ "caused by " ++ link.text

/-- The error and all its causes on one line. -/
def describe (cause : Cause) : String := cause.links.foldl describeLink ""

end Cause

/-! ## Classifying a chain -/

/-- Whether a failed operation should be attempted again. -/
inductive Signal
  | retryable
  | permanent
deriving DecidableEq, Repr

def Signal.isRetryable : Signal → Bool
  | .retryable => true
  | .permanent => false

def Signal.name : Signal → String
  | .retryable => "Retryable"
  | .permanent => "Permanent"

/-- The report of a status that rules out another attempt. -/
def Status.reported (status : Status) : Event :=
  { level := .info
    component := .contention
    message := "Status found in error chain, but it's not a retryable code"
    fields := [("status_code", .bare status.code.name),
      ("status_description", .text status.message)] }

/-- The first status in the chain decides, and what lies below it does not count. A
chain without a status is permanent. A status that rules out another attempt is
logged. -/
def signalOfLinks : List Link → Logged Signal
  | [] => pure .permanent
  | link :: below =>
    match link.status? with
    | none => signalOfLinks below
    | some status =>
      if status.code.isRetryable then pure .retryable
      else do
        Logged.log status.reported
        pure .permanent

/-- Classifies an error by its chain. -/
def Cause.signal (cause : Cause) : Logged Signal := signalOfLinks cause.links

theorem Cause.signal_wrap (message : String) (cause : Cause) :
    (cause.wrap message).signal = cause.signal := rfl

/-- Errors that carry the chain of their causes. -/
class HasCause (ε : Type) where
  cause : ε → Cause

/-- The text of an error. -/
def errorText {ε : Type} [HasCause ε] (e : ε) : String := (HasCause.cause e).text

/-- The error and all its causes on one line. -/
def chainText {ε : Type} [HasCause ε] (e : ε) : String := (HasCause.cause e).describe

instance : HasCause Cause := ⟨id⟩

end SteadyStore
