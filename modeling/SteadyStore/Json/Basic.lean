import SteadyStore.NameMap
import SteadyStore.Number.Binary64
/-!
# Documents

Documents are schema-less values. The fields of an object are kept in ascending
order of their names, one field to a name (`Json.object`).
-/

namespace SteadyStore

/-- A value of a document. Numbers are whole or floating point. -/
inductive Json
  | null
  | bool (b : Bool)
  | whole (n : Int)
  | float (x : Binary64)
  | text (s : String)
  | list (items : List Json)
  | fields (entries : List (String × Json))

namespace Json

/-- The object with the given entries. The last entry of a name counts. -/
def object (entries : List (String × Json)) : Json :=
  .fields (entries.foldl (fun sorted entry => insertEntry entry.1 entry.2 sorted) [])

/-- The field of an object; other values have none. -/
def field? (name : String) : Json → Option Json
  | .fields entries => lookupEntry name entries
  | _ => none

/-- The value at the end of a path of nested fields. -/
def at? : List String → Json → Option Json
  | [], value => some value
  | name :: path, value => (field? name value).bind (at? path)

theorem at?_append (p q : List String) (value : Json) :
    at? (p ++ q) value = (at? p value).bind (at? q) := by
  induction p generalizing value with
  | nil => rfl
  | cons name p ih =>
    simp only [List.cons_append, at?]
    cases field? name value with
    | none => rfl
    | some inner => exact ih inner

/-- A whole number from its digits, if it is in the range of documents: what 64
bits hold with or without a sign. -/
def inRange (n : Int) : Bool := -(twoPow 63 : Int) ≤ n && n < twoPow 64

end Json

end SteadyStore
