import SteadyStore.Event
import SteadyStore.Retry.Policy
import SteadyStore.Settings.Value
import SteadyStore.Settings.Variables
/-!
# Looking up settings

Settings come from variables. A lookup asks for variables one after another until one of
them is malformed, and keeps the names it asked for and the events it logged (`Lookup`).
-/

namespace SteadyStore

/-- Why settings cannot be used. -/
inductive SettingsFault
  /-- A variable is set to a text that is not its value. -/
  | malformed (name : String) (fault : ValueFault)
  /-- The values do not go together. -/
  | unusable (fault : RetryConfig.Fault)
deriving DecidableEq

def SettingsFault.message : SettingsFault → String
  | .malformed name fault => "Invalid " ++ name ++ ": " ++ fault.message
  | .unusable fault => fault.message

/-- What a lookup found, the names it asked for, and the events it logged. -/
structure Lookup (α : Type) where
  result : Except SettingsFault α
  asked : List String
  events : List Event

namespace Lookup

variable {α β : Type}

protected def pure (value : α) : Lookup α := ⟨.ok value, [], []⟩

/-- Goes on with the next lookup, unless the first failed. -/
protected def bind (first : Lookup α) (next : α → Lookup β) : Lookup β :=
  match first.result with
  | .error fault => ⟨.error fault, first.asked, first.events⟩
  | .ok value =>
    ⟨(next value).result, first.asked ++ (next value).asked, first.events ++ (next value).events⟩

instance : Monad Lookup where
  pure := Lookup.pure
  bind := Lookup.bind

def log (event : Event) : Lookup Unit := ⟨.ok (), [], [event]⟩

def fail (fault : SettingsFault) : Lookup α := ⟨.error fault, [], []⟩

/-- The text of a variable. -/
def textOf? (vars : Variables) (name : String) : Lookup (Option String) :=
  ⟨.ok (vars name), [name], []⟩

/-- The value of a text, without the blanks around it. -/
def valueOf (read : ValueReader α) (name value : String) : Except SettingsFault α :=
  (read (trimBlanks value.toList)).mapError (.malformed name)

/-- The value of a variable, or the default if the variable is not set. -/
def value (vars : Variables) (read : ValueReader α) (name : String) (default : α) : Lookup α :=
  { result :=
      match vars name with
      | none => .ok default
      | some text => valueOf read name text
    asked := [name]
    events := [] }

theorem bind_of_ok {first : Lookup α} {value : α} (h : first.result = .ok value)
    (next : α → Lookup β) :
    (first >>= next) =
      ⟨(next value).result, first.asked ++ (next value).asked,
        first.events ++ (next value).events⟩ := by
  show Lookup.bind first next = _
  rw [Lookup.bind, h]

theorem bind_of_error {first : Lookup α} {fault : SettingsFault} (h : first.result = .error fault)
    (next : α → Lookup β) :
    (first >>= next) = ⟨.error fault, first.asked, first.events⟩ := by
  show Lookup.bind first next = _
  rw [Lookup.bind, h]

end Lookup

end SteadyStore
