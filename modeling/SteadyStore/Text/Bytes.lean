/-!
# Places in bytes

A character is stored in one to four bytes, and some places in a text are given as a number
of bytes. `cutAtByte` cuts a text at such a place.
-/

namespace SteadyStore

/-- The number of bytes of a text. -/
def byteCount : List Char → Nat
  | [] => 0
  | c :: cs => c.utf8Size + byteCount cs

/-- Cuts a text after so many bytes. A character that would be cut itself stands behind. -/
def cutAtByte : Nat → List Char → List Char × List Char
  | _, [] => ([], [])
  | bytes, c :: cs =>
    if bytes < c.utf8Size then ([], c :: cs)
    else
      let (front, back) := cutAtByte (bytes - c.utf8Size) cs
      (c :: front, back)

@[simp] theorem byteCount_nil : byteCount [] = 0 := rfl

@[simp] theorem byteCount_cons (c : Char) (cs : List Char) :
    byteCount (c :: cs) = c.utf8Size + byteCount cs := rfl

end SteadyStore
