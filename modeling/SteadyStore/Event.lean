import SteadyStore.Text.Quoted
/-!
# Log events

What the library reports while it works: a level, the component that speaks, a
message and named fields. Operations return the events they log (`Logged`).
-/

namespace SteadyStore

/-- The levels, from the least to the most severe. -/
inductive Level
  | trace | debug | info | warn | error
deriving DecidableEq, Repr

/-- How much a level lets through: a filter at some rank shows the levels of that
rank and below. -/
def Level.rank : Level → Nat
  | .error => 1
  | .warn => 2
  | .info => 3
  | .debug => 4
  | .trace => 5

def Level.name : Level → String
  | .trace => "TRACE"
  | .debug => "DEBUG"
  | .info => "INFO"
  | .warn => "WARN"
  | .error => "ERROR"

/-- The parts of the library that log. -/
inductive Component
  | retry | contention | storeErrors | lookup | memory | decorator | settings | logging
deriving DecidableEq, Repr

/-- The target under which a component's events are filtered and printed. -/
def Component.target : Component → String
  | .retry => "census_common::retry"
  | .contention => "census_common::cloud::contention"
  | .storeErrors => "census_common::cloud::error"
  | .lookup => "census_common::cloud::store"
  | .memory => "census_common::cloud::memory"
  | .decorator => "census_common::cloud::retryable"
  | .settings => "census_common::config"
  | .logging => "census_common::tracing_config"

/-- The value of a field: rendered text that is printed bare, a text that is
printed between quotes, or a count. -/
inductive FieldValue
  | bare (text : String)
  | text (text : String)
  | count (n : Nat)
deriving DecidableEq, Repr

/-- The value as plain text. -/
def FieldValue.plain : FieldValue → String
  | .bare s => s
  | .text s => s
  | .count n => toString n

/-- The value as it is printed on a line. -/
def FieldValue.printed : FieldValue → String
  | .bare s => s
  | .text s => quoted s
  | .count n => toString n

/-- A log event. -/
structure Event where
  level : Level
  component : Component
  message : String
  fields : List (String × FieldValue)
deriving DecidableEq, Repr

/-- The plain text of a field, if the event has it. -/
def Event.field? (event : Event) (name : String) : Option String :=
  (event.fields.find? (·.1 = name)).map (·.2.plain)

/-! ## Values with events -/

/-- A value and the events logged while it was found. -/
structure Logged (α : Type) where
  value : α
  events : List Event

namespace Logged

variable {α β : Type}

protected def pure (value : α) : Logged α := ⟨value, []⟩

/-- The events of both steps, in order. -/
protected def bind (first : Logged α) (next : α → Logged β) : Logged β :=
  ⟨(next first.value).value, first.events ++ (next first.value).events⟩

instance : Monad Logged where
  pure := Logged.pure
  bind := Logged.bind

/-- Logs one event. -/
def log (event : Event) : Logged Unit := ⟨(), [event]⟩

@[simp] theorem value_pure (value : α) : (pure value : Logged α).value = value := rfl

@[simp] theorem events_pure (value : α) : (pure value : Logged α).events = [] := rfl

@[simp] theorem value_bind (first : Logged α) (next : α → Logged β) :
    (first >>= next).value = (next first.value).value := rfl

end Logged

/-- What an operation on a state gives: its value, the next state, and the events
it logged. -/
structure Step (σ α : Type) where
  value : α
  state : σ
  events : List Event

end SteadyStore
