import SteadyStore.Number.Decimal
/-!
# Places at the end of a reason

A reason can end in the line and the column that it is about. `Reason.ofText` reads such an
end off and `Reason.text` writes it again, so numbers lose the zeros in front of them. Lines
count from one: line zero is no place, and a reason about it stands alone.
-/

namespace SteadyStore

/-- Cuts a text at the last occurrence of a mark, which stands in neither part. -/
def cutAtLast? (mark : List Char) : List Char → Option (List Char × List Char)
  | [] => none
  | c :: rest =>
    match cutAtLast? mark rest with
    | some (front, back) => some (c :: front, back)
    | none =>
      if mark.isPrefixOf (c :: rest) then some ([], (c :: rest).drop mark.length) else none

/-- Where in a text something is. -/
structure Place where
  line : Nat
  column : Nat
deriving DecidableEq, Repr

namespace Place

/-- What stands in front of the line. -/
def lineMark : List Char := " at line ".toList

/-- What stands in front of the column. -/
def columnMark : List Char := " column ".toList

/-- A place as the end of a reason. -/
def text (place : Place) : String :=
  String.ofList lineMark ++ toString place.line ++ String.ofList columnMark ++
    toString place.column

/-- The number that digits write, if there are any and it takes no more than 64 bits. -/
def number? (digits : List Char) : Option Nat :=
  if digits ≠ [] ∧ digits.all Char.isDigit ∧ digitsValue digits < UInt64.size then
    some (digitsValue digits)
  else none

/-- Reads the line and the column after the mark of the line. Nothing may follow. -/
def read? (cs : List Char) : Option Place :=
  let afterLine := cs.dropWhile Char.isDigit
  if columnMark.isPrefixOf afterLine then do
    let line ← number? (cs.takeWhile Char.isDigit)
    let column ← number? (afterLine.drop columnMark.length)
    some ⟨line, column⟩
  else none

end Place

/-- A reason, and the place that it is about. -/
structure Reason where
  words : String
  place? : Option Place
deriving DecidableEq, Repr

namespace Reason

/-- Reads off the place at the end of a text. -/
def ofText (text : String) : Reason :=
  match cutAtLast? Place.lineMark text.toList with
  | none => ⟨text, none⟩
  | some (words, rest) =>
    match Place.read? rest with
    | none => ⟨text, none⟩
    | some place => ⟨String.ofList words, if place.line = 0 then none else some place⟩

def text (reason : Reason) : String :=
  match reason.place? with
  | none => reason.words
  | some place => reason.words ++ place.text

end Reason

end SteadyStore
