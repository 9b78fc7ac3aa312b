import SteadyStore.Json.Basic
import SteadyStore.Number.Shortest
/-!
# Writing documents

`Json.write` writes a document on one line without blanks. Quotes, backslashes and control
characters are escaped, and every other character stands for itself.
-/

namespace SteadyStore.Json

/-- A character between quotes. -/
def writeChar (c : Char) : List Char :=
  if c = '"' ∨ c = '\\' then ['\\', c]
  else if c = '\n' then ['\\', 'n']
  else if c = '\r' then ['\\', 'r']
  else if c = '\t' then ['\\', 't']
  else if c = '\x08' then ['\\', 'b']
  else if c = '\x0c' then ['\\', 'f']
  else if c.toNat < 32 then
    ['\\', 'u', '0', '0', Nat.digitChar (c.toNat / 16), Nat.digitChar (c.toNat % 16)]
  else [c]

/-- A text between quotes. -/
def writeText (s : String) : String := "\"" ++ String.ofList (s.toList.flatMap writeChar) ++ "\""

mutual

/-- A document on one line. Numbers that are not finite are written as nothing. -/
def write : Json → String
  | .null => "null"
  | .bool b => if b then "true" else "false"
  | .whole n => toString n
  | .float x => if x.isFinite then NumberStyle.document.write x else "null"
  | .text s => writeText s
  | .list items => "[" ++ writeItems items ++ "]"
  | .fields entries => "\x7b" ++ writeEntries entries ++ "\x7d"

/-- The items of a list between commas. -/
def writeItems : List Json → String
  | [] => ""
  | [item] => write item
  | item :: items => write item ++ "," ++ writeItems items

/-- The fields of an object between commas. -/
def writeEntries : List (String × Json) → String
  | [] => ""
  | [(name, value)] => writeText name ++ ":" ++ write value
  | (name, value) :: entries =>
    writeText name ++ ":" ++ write value ++ "," ++ writeEntries entries

end

end SteadyStore.Json
