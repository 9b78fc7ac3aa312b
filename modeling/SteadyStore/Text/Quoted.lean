import SteadyStore.Text.Unprintable
/-!
# Quoted text

A text between double quotes, on one line: quotes and backslashes are escaped,
line ends, tabs and NUL have short escapes, and every other character without
a glyph of its own is written by its code point.
-/

namespace SteadyStore

/-- The code point of a character in lower-case hexadecimal. -/
def codePointHex (c : Char) : List Char := Nat.toDigits 16 c.toNat

/-- A character as it stands between the quotes. -/
def quoteChar (c : Char) : List Char :=
  if c = '"' then ['\\', '"']
  else if c = '\\' then ['\\', '\\']
  else if c = '\n' then ['\\', 'n']
  else if c = '\r' then ['\\', 'r']
  else if c = '\t' then ['\\', 't']
  else if c = '\x00' then ['\\', '0']
  else if isAttaching c || isIgnorable c || isUnprintable c then
    ['\\', 'u', '\x7b'] ++ codePointHex c ++ ['\x7d']
  else [c]

/-- The characters of a text between quotes. -/
def quoteChars (cs : List Char) : List Char := '"' :: cs.flatMap quoteChar ++ ['"']

/-- A text between quotes, escaped. -/
def quoted (text : String) : String := String.ofList (quoteChars text.toList)

/-- Quoted texts between brackets. -/
def quotedList (texts : List String) : String :=
  "[" ++ ", ".intercalate (texts.map quoted) ++ "]"

end SteadyStore
