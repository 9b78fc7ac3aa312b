import SteadyStore.Json.Basic
import SteadyStore.Logging.Config
import SteadyStore.Logging.Filter
/-!
# The log of a program

A program has one log. It prints nothing until it is set up, and it can be set up only
once (`Log.setUp`). From then on it prints the events that its filter lets through, as
plain lines or as documents.
-/

namespace SteadyStore

/-! ## Lines -/

/-- The value of a field in a document. -/
def FieldValue.document : FieldValue → Json
  | .bare s => .text s
  | .text s => .text s
  | .count n => .whole n

/-- The event as a document. -/
def Event.document (event : Event) : Json :=
  Json.object
    [("fields", Json.object (("message", .text event.message) ::
        event.fields.map fun field => (field.1, field.2.document))),
     ("level", .text event.level.name),
     ("target", .text event.component.target)]

/-- The event on one line: the level in five places, the target, the message, the fields. -/
def Event.line (event : Event) : String :=
  String.ofList (List.replicate (5 - event.level.name.length) ' ') ++ event.level.name ++ " " ++
    event.component.target ++ ": " ++ event.message ++
    String.join (event.fields.map fun field => " " ++ field.1 ++ "=" ++ field.2.printed)

/-- A printed line. -/
inductive LogLine
  | plain (line : String)
  | document (content : Json)

/-! ## The log -/

/-- What decides what is printed, and how. -/
structure LogSetup where
  filter : Filter
  jsonOutput : Bool
deriving DecidableEq, Repr

/-- An event as it is printed. -/
def LogSetup.render (setup : LogSetup) (event : Event) : LogLine :=
  if setup.jsonOutput then .document event.document else .plain event.line

/-- The log: how it was set up, if it was, and the lines printed so far. -/
structure Log where
  setup? : Option LogSetup
  lines : List LogLine

/-- Why a log cannot be set up. -/
inductive LogFault
  | invalidLevel (level : String) (fault : FilterFault)
  | alreadySetUp
deriving DecidableEq, Repr

def LogFault.message : LogFault → String
  | .invalidLevel level fault => "Invalid log level '" ++ level ++ "': " ++ fault.message
  | .alreadySetUp =>
    "Tracing already initialised: a global default trace dispatcher has already been set"

namespace Log

/-- The log at the start of a program. -/
def fresh : Log := ⟨none, []⟩

/-- Prints an event, if the log is set up and its filter lets the event through. -/
def print (log : Log) (event : Event) : Log :=
  match log.setup? with
  | none => log
  | some setup =>
    if setup.filter.lets event then { log with lines := log.lines ++ [setup.render event] }
    else log

def printAll (log : Log) (events : List Event) : Log := events.foldl print log

def setUpEvent (config : LoggingConfig) : Event :=
  { level := .info
    component := .logging
    message := "Tracing initialised"
    fields := [("service", .bare config.serviceName)] }

/-- The filter of the environment if it names one that can be read, or else the one of the
configuration. -/
def chooseFilter (named? : Option String) (config : LoggingConfig) : Except LogFault Filter :=
  match named?.map Filter.ofText with
  | some (.ok filter) => .ok filter
  | _ => (Filter.ofText config.logLevel).mapError (.invalidLevel config.logLevel)

/-- Sets the log up. The filter is looked at first. -/
def setUp (named? : Option String) (config : LoggingConfig) (log : Log) :
    Except LogFault Unit × Log :=
  match chooseFilter named? config with
  | .error fault => (.error fault, log)
  | .ok filter =>
    match log.setup? with
    | some _ => (.error .alreadySetUp, log)
    | none =>
      let ready : Log := { log with setup? := some ⟨filter, config.jsonOutput⟩ }
      (.ok (), ready.print (setUpEvent config))

end Log

end SteadyStore
