import SteadyStore.Json.Numeral
/-!
# Reading documents

`Json.ofText` reads a text as a document, or says what is wrong with it and where.
Lists and objects nest at most 127 deep.
-/

namespace SteadyStore.Json

open Reader

/-! ## Texts -/

/-- The value of a hexadecimal digit. -/
def hexDigit? (b : UInt8) : Option Nat :=
  if 48 ≤ b && b ≤ 57 then some (b.toNat - 48)
  else if 65 ≤ b && b ≤ 70 then some (b.toNat - 55)
  else if 97 ≤ b && b ≤ 102 then some (b.toNat - 87)
  else none

/-- Four hexadecimal digits. -/
def readHex : Reader Nat := do
  let bytes := (← get).rest.take 4
  skip bytes.length
  if bytes.length < 4 then fail .endInText
  match bytes.mapM hexDigit? with
  | some digits => return digits.foldl (fun n digit => 16 * n + digit) 0
  | none => fail .invalidEscape

/-- The bytes of a code point. -/
def encodeCodePoint (n : Nat) : List UInt8 := (String.singleton (Char.ofNat n)).toUTF8.toList

/-- The next byte has to be `b`, or the second half of a code point is missing. -/
def readHalfMark (b : UInt8) : Reader Unit := do
  let next ← peek?
  if next.isNone then fail .endInText
  skip 1
  if next ≠ some b then fail .endOfHexEscape

/-- A code point by its number, behind `\u`. Code points above `U+FFFF` are written as two
halves, the second behind another `\u`. -/
def readCodePoint : Reader (List UInt8) := do
  let high ← readHex
  if 0xDC00 ≤ high ∧ high ≤ 0xDFFF then fail .loneSurrogate
  if high < 0xD800 ∨ 0xDBFF < high then return encodeCodePoint high
  readHalfMark 92
  readHalfMark 117
  let low ← readHex
  if low < 0xDC00 ∨ 0xDFFF < low then fail .loneSurrogate
  return encodeCodePoint (0x10000 + (high - 0xD800) * 0x400 + (low - 0xDC00))

/-- The bytes an escape stands for, behind its backslash. -/
def readEscape : Reader (List UInt8) := do
  match ← peek? with
  | none => fail .endInText
  | some b =>
    skip 1
    match b with
    | 34 | 92 | 47 => return [b]
    | 98 => return [8]
    | 102 => return [12]
    | 110 => return [10]
    | 114 => return [13]
    | 116 => return [9]
    | 117 => readCodePoint
    | _ => fail .invalidEscape

/-- The bytes of a text up to its closing quote, in at most `fuel` steps. -/
def readTextBytes : Nat → Reader (List UInt8)
  | 0 => fail .endInText
  | fuel + 1 => do
    match ← peek? with
    | none => fail .endInText
    | some b =>
      skip 1
      if b = 34 then return []
      else if b = 92 then return (← readEscape) ++ (← readTextBytes fuel)
      else if b < 32 then fail .controlCharacter
      else return b :: (← readTextBytes fuel)

/-- A text behind its opening quote. Each step reads at least one byte. -/
def readText : Reader String := do
  let bytes ← readTextBytes ((← get).rest.length + 1)
  return (String.fromUTF8? ⟨bytes.toArray⟩).getD ""

/-! ## Values -/

/-- The bytes of a word, one by one. -/
def readWord : List UInt8 → Reader Unit
  | [] => return ()
  | expected :: word => do
    let next ← peek?
    if next.isNone then fail .endInValue
    skip 1
    if next = some expected then readWord word else fail .expectedWord

/-- What may follow an item of a list other than its end: a comma and another item. -/
def readListComma (next : UInt8) : Reader Unit := do
  if next ≠ 44 then failAtNext .expectedListEnd
  skip 1
  match ← peekPastSpaces? with
  | none => failAtNext .endInValue
  | some 93 => failAtNext .trailingComma
  | some _ => return ()

/-- The items of a list up to its closing bracket, in at most `fuel` steps. -/
def readItems (readItem : Reader Json) : Nat → Bool → Reader (List Json)
  | 0, _ => fail .endInList
  | fuel + 1, first => do
    match ← peekPastSpaces? with
    | none => failAtNext .endInList
    | some 93 =>
      skip 1
      return []
    | some next =>
      if !first then readListComma next
      return (← readItem) :: (← readItems readItem fuel false)

/-- What may follow an entry of an object other than its end: a comma and another key. -/
def readObjectComma (next : UInt8) : Reader Unit := do
  if next ≠ 44 then failAtNext .expectedObjectEnd
  skip 1
  match ← peekPastSpaces? with
  | none => failAtNext .endInValue
  | some 34 => return ()
  | some 125 => failAtNext .trailingComma
  | some _ => failAtNext .keyNotText

/-- A key and the colon behind it. -/
def readKey : Reader String := do
  skip 1
  let key ← readText
  match ← peekPastSpaces? with
  | none => failAtNext .endInObject
  | some 58 =>
    skip 1
    return key
  | some _ => failAtNext .expectedColon

/-- The entries of an object up to its closing brace, in at most `fuel` steps. -/
def readEntries (readItem : Reader Json) : Nat → Bool → Reader (List (String × Json))
  | 0, _ => fail .endInObject
  | fuel + 1, first => do
    match ← peekPastSpaces? with
    | none => failAtNext .endInObject
    | some 125 =>
      skip 1
      return []
    | some next =>
      if !first then readObjectComma next
      else if next ≠ 34 then failAtNext .keyNotText
      let key ← readKey
      let value ← readItem
      return (key, value) :: (← readEntries readItem fuel false)

/-- A value whose parts are read by `readItem?`; without it no list and no object may
open. -/
def readValueWith (readItem? : Option (Reader Json)) : Reader Json := do
  match ← peekPastSpaces? with
  | none => failAtNext .endInValue
  | some next =>
    if next = 110 then
      readWord [110, 117, 108, 108]
      return .null
    else if next = 116 then
      readWord [116, 114, 117, 101]
      return .bool true
    else if next = 102 then
      readWord [102, 97, 108, 115, 101]
      return .bool false
    else if next = 45 || isDigit next then readNumber
    else if next = 34 then
      skip 1
      return .text (← readText)
    else if next = 91 || next = 123 then
      match readItem? with
      | none => failAtNext .tooDeep
      | some readItem =>
        let fuel := (← get).rest.length
        skip 1
        if next = 91 then return .list (← readItems readItem fuel true)
        else return object (← readEntries readItem fuel true)
    else failAtNext .expectedValue

/-- A value in which lists and objects nest at most `depth` deep. -/
def readValue : Nat → Reader Json
  | 0 => readValueWith none
  | depth + 1 => readValueWith (some (readValue depth))

/-- A value with nothing but spaces behind it. -/
def readDocument : Reader Json := do
  let value ← readValue 127
  if (← peekPastSpaces?).isSome then failAtNext .trailingCharacters
  return value

/-- The document a text writes. -/
def ofText (text : String) : Except SyntaxError Json :=
  let bytes := text.toUTF8.toList
  match readDocument.run ⟨bytes, 0⟩ with
  | .ok (value, _) => .ok value
  | .error failure => .error (failure.locate bytes)

end SteadyStore.Json
