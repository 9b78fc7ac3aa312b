/-!
# Scripts

A script plays its entries one by one, and then its default for ever.
-/

namespace SteadyStore

structure Script (α : Type) where
  entries : List α
  default : α
deriving DecidableEq, Repr

namespace Script

variable {α : Type}

/-- The entry to play now. -/
def current (script : Script α) : α := script.entries.headD script.default

/-- What is left to play after it. -/
def advance (script : Script α) : Script α := { script with entries := script.entries.tail }

/-- What a script plays at some place, counted from zero. -/
def entryAt (script : Script α) (n : Nat) : α := script.entries.getD n script.default

end Script

end SteadyStore
