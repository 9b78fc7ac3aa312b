import SteadyStore.Json.Reader
import SteadyStore.Number.Shortest
import SteadyStore.Shape.Timestamp
import SteadyStore.Shape.Uuid
import SteadyStore.Text.Quoted
/-!
# Shapes of documents

A shape says what a document has to look like to be a value of some type.
`Shape.read` converts a document to the value it holds, written as a document again,
or says why it holds none (`ShapeError`). Objects are read field by field in the order
of their names, and the first fault counts.
-/

namespace SteadyStore

/-! ## Faults -/

/-- What a document holds where something else was expected. -/
inductive Found
  | bool (b : Bool)
  | whole (n : Int)
  | float (x : Binary64)
  | text (s : String)
  | null | sequence | map | bareVariant

def Found.name : Found → String
  | .bool b => "boolean `" ++ (if b then "true" else "false") ++ "`"
  | .whole n => "integer `" ++ toString n ++ "`"
  | .float x => "floating point `" ++ NumberStyle.document.write x ++ "`"
  | .text s => "string " ++ quoted s
  | .null => "null"
  | .sequence => "sequence"
  | .map => "map"
  | .bareVariant => "unit variant"

def Found.ofJson : Json → Found
  | .null => .null
  | .bool b => .bool b
  | .whole n => .whole n
  | .float x => .float x
  | .text s => .text s
  | .list _ => .sequence
  | .fields _ => .map

/-- Why a document does not have a shape. -/
inductive ShapeError
  | type (found : Found) (expected : String)
  | value (found : Found) (expected : String)
  | length (found : Nat) (expected : String)
  | missingField (name : String)
  | unknownVariant (name : String) (variants : List String)
  | keyNotNumber
  | keySyntax (e : Json.SyntaxError)
  | keyValue (found : Found) (expected : String) (column : Nat)
  | keyType (found : Found) (expected : String) (column : Nat)
  | content (message : String)

/-- The variants to choose from, as a phrase. -/
def oneOf : List String → String
  | [] => "there are no variants"
  | [a] => "expected `" ++ a ++ "`"
  | [a, b] => "expected `" ++ a ++ "` or `" ++ b ++ "`"
  | names => "expected one of " ++ ", ".intercalate (names.map fun name => "`" ++ name ++ "`")

def ShapeError.message : ShapeError → String
  | .type found expected => "invalid type: " ++ found.name ++ ", expected " ++ expected
  | .value found expected => "invalid value: " ++ found.name ++ ", expected " ++ expected
  | .length found expected => "invalid length " ++ toString found ++ ", expected " ++ expected
  | .missingField name => "missing field `" ++ name ++ "`"
  | .unknownVariant name variants => "unknown variant `" ++ name ++ "`, " ++ oneOf variants
  | .keyNotNumber => "invalid value: expected key to be a number in quotes"
  | .keySyntax e => e.text
  | .keyValue found expected column =>
    "invalid value: " ++ found.name ++ ", expected " ++ expected ++ " at line 1 column " ++
      toString column
  | .keyType found expected column =>
    "invalid type: " ++ found.name ++ ", expected " ++ expected ++ " at line 1 column " ++
      toString column
  | .content message => message

/-! ## Shapes -/

/-- What a document can be asked to look like. -/
inductive Shape
  /-- Any document. -/
  | any
  | bool
  | character
  | text
  | uuid
  | timestamp
  /-- Nothing, written as null. -/
  | unit
  /-- A whole number of so many bits, without or with a sign. -/
  | unsigned (bits : Nat)
  | signed (bits : Nat)
  /-- A value, or null. -/
  | optional (inner : Shape)
  | sequence (inner : Shape)
  /-- A list of fixed length whose items have one shape. -/
  | array (length : Nat) (inner : Shape)
  /-- A list of fixed length whose items each have their own shape. -/
  | tuple (items : List Shape)
  /-- An object with any keys. -/
  | map (inner : Shape)
  /-- An object whose keys are numbers of 64 bits. -/
  | numberMap (inner : Shape)
  /-- An object with fixed fields, or the list of their values. Other fields are dropped. -/
  | record (name : String) (fields : List (String × Shape))
  /-- A choice: a bare name, a name with one value, or a name with fields. -/
  | choice (bares : List String) (singles : List (String × Shape))
      (records : List (String × List (String × Shape)))

namespace Shape

/-! ## Reading numbers and keys -/

/-- The numbers of so many bits without a sign. -/
def fitsUnsigned (bits : Nat) (n : Int) : Bool := 0 ≤ n && n < twoPow bits

/-- The numbers of so many bits with a sign. -/
def fitsSigned (bits : Nat) (n : Int) : Bool :=
  -(twoPow (bits - 1) : Int) ≤ n && n < twoPow (bits - 1)

/-- A whole number that fits. -/
def readWhole (fits : Int → Bool) (expected : String) (value : Json) : Except ShapeError Json :=
  match value with
  | .whole n => if fits n then .ok (.whole n) else .error (.value (.whole n) expected)
  | other => .error (.type (.ofJson other) expected)

/-- A key that is a number of 64 bits, with nothing around it. -/
def readNumberKey (key : String) : Except ShapeError String :=
  let bytes := key.toUTF8.toList
  match bytes with
  | b :: _ =>
    if b = 45 || Json.isDigit b then
      match Json.readNumber.run ⟨bytes, 0⟩ with
      | .error failure => .error (.keySyntax (failure.locate bytes))
      | .ok (number, cursor) =>
        match number with
        | .whole n =>
          if !fitsUnsigned 64 n then .error (.keyValue (.whole n) "u64" cursor.read)
          else if cursor.rest.isEmpty then .ok (toString n)
          else .error .keyNotNumber
        | other => .error (.keyType (.ofJson other) "u64" cursor.read)
    else .error .keyNotNumber
  | [] => .error .keyNotNumber

/-! ## Reading -/

/-- What a list of fixed length is called where it was expected. -/
def arrayName (length : Nat) : String := "an array of length " ++ toString length

def tupleName (length : Nat) : String := "a tuple of size " ++ toString length

def recordName (name : String) : String := "struct " ++ name

/-- A list that should have had fewer items. -/
def tooLong (length : Nat) : ShapeError := .length length "fewer elements in array"

/-- Reads each of some items in order. -/
def readAll (read : Json → Except ShapeError Json) : List Json → Except ShapeError (List Json)
  | [] => .ok []
  | item :: items => do
    let value ← read item
    let values ← readAll read items
    .ok (value :: values)

/-- Reads the first `count` items; `taken` of them are read already. -/
def readExactly (read : Json → Except ShapeError Json) (expected : String) (taken : Nat) :
    Nat → List Json → Except ShapeError (List Json)
  | 0, [] => .ok []
  | 0, rest => .error (tooLong (taken + rest.length))
  | _ + 1, [] => .error (.length taken expected)
  | count + 1, item :: items => do
    let value ← read item
    let values ← readExactly read expected (taken + 1) count items
    .ok (value :: values)

/-- Reads the value of each entry in order. -/
def readEntries (readKey : String → Except ShapeError String)
    (read : Json → Except ShapeError Json) :
    List (String × Json) → Except ShapeError (List (String × Json))
  | [] => .ok []
  | (key, value) :: entries => do
    let key ← readKey key
    let value ← read value
    let entries ← readEntries readKey read entries
    .ok ((key, value) :: entries)

/-- The fields in the order of the shape; one that is not there is missing. -/
def collectFields (names : List String) (values : List (String × Json)) :
    Except ShapeError (List (String × Json)) :=
  match names with
  | [] => .ok []
  | name :: names =>
    match lookupEntry name values with
    | none => .error (.missingField name)
    | some value => do
      let fields ← collectFields names values
      .ok ((name, value) :: fields)

/-- Reads the entries that are fields of a record. -/
def readKnown (readField : String → Json → Except ShapeError (Option Json)) :
    List (String × Json) → Except ShapeError (List (String × Json))
  | [] => .ok []
  | (name, value) :: entries => do
    let field ← readField name value
    let fields ← readKnown readField entries
    .ok (match field with
      | some value => (name, value) :: fields
      | none => fields)

mutual

/-- The value that a document holds, written as a document. -/
def read : Shape → Json → Except ShapeError Json
  | .any, value => .ok value
  | .bool, value =>
    match value with
    | .bool b => .ok (.bool b)
    | other => .error (.type (.ofJson other) "a boolean")
  | .character, value =>
    match value with
    | .text s => if s.length = 1 then .ok (.text s) else .error (.value (.text s) "a character")
    | other => .error (.type (.ofJson other) "a character")
  | .text, value =>
    match value with
    | .text s => .ok (.text s)
    | other => .error (.type (.ofJson other) "a string")
  | .uuid, value =>
    match value with
    | .text s => ((Uuid.normalize s).map .text).mapError .content
    | other => .error (.type (.ofJson other) "a formatted UUID string")
  | .timestamp, value =>
    match value with
    | .text s => ((Timestamp.normalize s).map .text).mapError .content
    | other => .error (.type (.ofJson other) "an RFC 3339 formatted date and time string")
  | .unit, value =>
    match value with
    | .null => .ok .null
    | other => .error (.type (.ofJson other) "unit")
  | .unsigned bits, value => readWhole (fitsUnsigned bits) ("u" ++ toString bits) value
  | .signed bits, value => readWhole (fitsSigned bits) ("i" ++ toString bits) value
  | .optional inner, value =>
    match value with
    | .null => .ok .null
    | other => read inner other
  | .sequence inner, value =>
    match value with
    | .list items => do .ok (.list (← readAll (read inner) items))
    | other => .error (.type (.ofJson other) "a sequence")
  | .array length inner, value =>
    match value with
    | .list items => do .ok (.list (← readExactly (read inner) (arrayName length) 0 length items))
    | other => .error (.type (.ofJson other) (arrayName length))
  | .tuple shapes, value =>
    match value with
    | .list items => do .ok (.list (← readItems shapes (tupleName shapes.length) 0 items))
    | other => .error (.type (.ofJson other) (tupleName shapes.length))
  | .map inner, value =>
    match value with
    | .fields entries => do .ok (Json.object (← readEntries .ok (read inner) entries))
    | other => .error (.type (.ofJson other) "a map")
  | .numberMap inner, value =>
    match value with
    | .fields entries => do .ok (Json.object (← readEntries readNumberKey (read inner) entries))
    | other => .error (.type (.ofJson other) "a map")
  | .record name fields, value =>
    match value with
    | .fields entries => do
      let values ← readKnown (readField fields) entries
      .ok (Json.object (← collectFields (fields.map (·.1)) values))
    | .list items => do
      let expected := recordName name ++ " with " ++ toString fields.length ++ " elements"
      .ok (Json.object (← readPlaces fields expected 0 items))
    | other => .error (.type (.ofJson other) (recordName name))
  | .choice bares singles records, value =>
    let unknown (name : String) : Except ShapeError Json :=
      .error (.unknownVariant name (bares ++ singles.map (·.1) ++ records.map (·.1)))
    match value with
    | .text name =>
      if name ∈ bares then .ok (.text name)
      else if name ∈ singles.map (·.1) then .error (.type .bareVariant "newtype variant")
      else if name ∈ records.map (·.1) then .error (.type .bareVariant "struct variant")
      else unknown name
    | .fields [(name, content)] =>
      if name ∈ bares then
        match content with
        | .null => .ok (.text name)
        | other => .error (.type (.ofJson other) "unit")
      else do
        match ← readField singles name content with
        | some value => .ok (.fields [(name, value)])
        | none =>
          match ← readVariant records name content with
          | some value => .ok (.fields [(name, value)])
          | none => unknown name
    | .fields _ => .error (.value .map "map with a single key")
    | other => .error (.type (.ofJson other) "string or map")

/-- The items of a tuple, one shape to each. -/
def readItems : List Shape → String → Nat → List Json → Except ShapeError (List Json)
  | [], _, _, [] => .ok []
  | [], _, taken, rest => .error (tooLong (taken + rest.length))
  | _ :: _, expected, taken, [] => .error (.length taken expected)
  | shape :: shapes, expected, taken, item :: items => do
    let value ← read shape item
    let values ← readItems shapes expected (taken + 1) items
    .ok (value :: values)

/-- The fields of a record from the list of their values. -/
def readPlaces : List (String × Shape) → String → Nat → List Json →
    Except ShapeError (List (String × Json))
  | [], _, _, [] => .ok []
  | [], _, taken, rest => .error (tooLong (taken + rest.length))
  | _ :: _, expected, taken, [] => .error (.length taken expected)
  | (name, shape) :: fields, expected, taken, item :: items => do
    let value ← read shape item
    let values ← readPlaces fields expected (taken + 1) items
    .ok ((name, value) :: values)

/-- The value of a field; `none` if there is no such field. -/
def readField : List (String × Shape) → String → Json → Except ShapeError (Option Json)
  | [], _, _ => .ok none
  | (field, shape) :: fields, name, value =>
    if field = name then (read shape value).map some else readField fields name value

/-- The fields of a variant; `none` if there is no such variant. -/
def readVariant : List (String × List (String × Shape)) → String → Json →
    Except ShapeError (Option Json)
  | [], _, _ => .ok none
  | (variant, fields) :: variants, name, content =>
    if variant = name then
      match content with
      | .fields entries => do
        let values ← readKnown (readField fields) entries
        .ok (some (Json.object (← collectFields (fields.map (·.1)) values)))
      | other => .error (.type (.ofJson other) "struct variant")
    else readVariant variants name content

end

end Shape

end SteadyStore
