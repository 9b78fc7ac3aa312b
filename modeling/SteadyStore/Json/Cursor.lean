/-!
# Reading positions

A document's text is read as bytes. A `Cursor` is what is left to read with the
number of bytes before it, and a `Failure` is a fault with the number of bytes read
when it was found; `Reader` is the monad of readers. `SyntaxError` gives that place as
a line and a column, where the column counts the bytes of the line read so far.
-/

namespace SteadyStore.Json

/-- What can be wrong with the text of a document. -/
inductive Fault
  | endInValue | endInList | endInObject | endInText
  | expectedValue | expectedWord | expectedColon | expectedListEnd | expectedObjectEnd
  | trailingComma | trailingCharacters | keyNotText
  | invalidEscape | endOfHexEscape | loneSurrogate | controlCharacter
  | invalidNumber | numberOutOfRange | tooDeep
deriving DecidableEq, Repr

def Fault.message : Fault → String
  | .endInValue => "EOF while parsing a value"
  | .endInList => "EOF while parsing a list"
  | .endInObject => "EOF while parsing an object"
  | .endInText => "EOF while parsing a string"
  | .expectedValue => "expected value"
  | .expectedWord => "expected ident"
  | .expectedColon => "expected `:`"
  | .expectedListEnd => "expected `,` or `]`"
  | .expectedObjectEnd => "expected `,` or `\x7d`"
  | .trailingComma => "trailing comma"
  | .trailingCharacters => "trailing characters"
  | .keyNotText => "key must be a string"
  | .invalidEscape => "invalid escape"
  | .endOfHexEscape => "unexpected end of hex escape"
  | .loneSurrogate => "lone leading surrogate in hex escape"
  | .controlCharacter => "control character (\\u0000-\\u001F) found while parsing a string"
  | .invalidNumber => "invalid number"
  | .numberOutOfRange => "number out of range"
  | .tooDeep => "recursion limit exceeded"

/-- A fault, and the number of bytes read when it was found. -/
structure Failure where
  fault : Fault
  read : Nat

/-- The text left to read, and the number of bytes before it. -/
structure Cursor where
  rest : List UInt8
  read : Nat

/-- The cursor behind the next `n` bytes. -/
def Cursor.advance (c : Cursor) (n : Nat) : Cursor := ⟨c.rest.drop n, c.read + n⟩

/-- Reading moves the cursor, or fails. -/
abbrev Reader := StateT Cursor (Except Failure)

namespace Reader

/-- The next byte, which stays unread. -/
def peek? : Reader (Option UInt8) := return (← get).rest.head?

/-- Reads past `n` bytes. -/
def skip (n : Nat) : Reader Unit := modify (·.advance n)

/-- Fails at the cursor. -/
def fail {α : Type} (fault : Fault) : Reader α := do throw ⟨fault, (← get).read⟩

/-- Fails at the next byte, which counts as read. At the end there is none. -/
def failAtNext {α : Type} (fault : Fault) : Reader α := do
  let c ← get
  throw ⟨fault, c.read + min 1 c.rest.length⟩

/-- The bytes that may stand between the parts of a document: blank, line feed, tab and
carriage return. -/
def isSpace (b : UInt8) : Bool := b = 32 || b = 10 || b = 9 || b = 13

/-- Reads past spaces, and gives the byte behind them. -/
def peekPastSpaces? : Reader (Option UInt8) := do
  skip ((← get).rest.takeWhile isSpace).length
  peek?

end Reader

/-- A fault in a text, with its place. -/
structure SyntaxError where
  fault : Fault
  line : Nat
  column : Nat
deriving DecidableEq, Repr

/-- The failure's place in a text. Lines count from one. -/
def Failure.locate (failure : Failure) (bytes : List UInt8) : SyntaxError :=
  let before := bytes.take failure.read
  { fault := failure.fault
    line := 1 + before.count 10
    column := (before.reverse.takeWhile (· ≠ 10)).length }

def SyntaxError.text (e : SyntaxError) : String :=
  e.fault.message ++ " at line " ++ toString e.line ++ " column " ++ toString e.column

end SteadyStore.Json
