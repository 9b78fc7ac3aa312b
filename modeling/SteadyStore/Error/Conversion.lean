import SteadyStore.Cause
import SteadyStore.Shape.Basic
import SteadyStore.Text.Place
/-!
# Errors of conversion

Why a value could not become a document, or a document a value.
-/

namespace SteadyStore

/-- Why a document could not be converted to or from a value. -/
inductive ConversionError
  /-- The text is no document. -/
  | text (e : Json.SyntaxError)
  /-- The document does not have the shape of the value. -/
  | shape (e : ShapeError)
  /-- A number is out of the range of documents. -/
  | numberOutOfRange
  /-- A key of a map is no text. -/
  | keyNotText
  /-- The value itself refused. -/
  | refused (reason : Reason)

namespace ConversionError

def message : ConversionError → String
  | .text e => e.text
  | .shape e => e.message
  | .numberOutOfRange => "number out of range"
  | .keyNotText => "key must be a string"
  | .refused reason => reason.text

instance : HasCause ConversionError := ⟨fun e => .ofText e.message⟩

end ConversionError

end SteadyStore
