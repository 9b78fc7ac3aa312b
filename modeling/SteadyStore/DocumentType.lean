import SteadyStore.Error.Conversion
/-!
# Types of values

How the values of a type become documents. Most values are documents already
(`DocumentType.ofName`); numbers, maps and values that refuse have rules of their own.
Reading documents back is up to a `DocumentReader`. A shape reads by its own rules
(`Shape.reader`).
-/

namespace SteadyStore

/-- A type whose values can be stored: its full name, and how a value becomes a document. -/
structure DocumentType (α : Type) where
  name : String
  write : α → Except ConversionError Json

/-- What reads a document as a value of some type. -/
abbrev DocumentReader (α : Type) := Json → Except ConversionError α

/-- Reads documents of a shape. -/
def Shape.reader (shape : Shape) : DocumentReader Json := fun document =>
  (shape.read document).mapError .shape

namespace DocumentType

/-- The values are documents already. -/
def ofName (name : String) : DocumentType Json := ⟨name, .ok⟩

/-- Floating point numbers. One that is not finite is written as nothing. -/
def float (name : String) : DocumentType Binary64 :=
  ⟨name, fun x => .ok (if x.isFinite then .float x else .null)⟩

/-- Whole numbers of any size. One that is out of the range of documents cannot be written. -/
def wide (name : String) : DocumentType Nat :=
  ⟨name, fun n => if Json.inRange n then .ok (.whole n) else .error .numberOutOfRange⟩

/-- The key that a value makes: texts and whole numbers are keys. -/
def keyText? : Json → Option String
  | .text s => some s
  | .whole n => some (toString n)
  | _ => none

/-- Writes the entries of a map in order. -/
def writeEntries : List (Json × Json) → Except ConversionError (List (String × Json))
  | [] => .ok []
  | (key, value) :: entries =>
    match keyText? key with
    | none => .error .keyNotText
    | some key => do .ok ((key, value) :: (← writeEntries entries))

/-- Maps from values to values. The keys have to be written as texts. -/
def map (name : String) : DocumentType (List (Json × Json)) :=
  ⟨name, fun entries => do .ok (Json.object (← writeEntries entries))⟩

/-- Values that cannot be written, for a reason they spell out themselves. -/
def refusing (name : String) : DocumentType String :=
  ⟨name, fun text => .error (.refused (.ofText text))⟩

end DocumentType

end SteadyStore
