import SteadyStore.Settings.Variables
import SteadyStore.Text.Alphanumeric
import SteadyStore.Text.Blank
/-!
# Assignments of an environment file

A line gives a name and a value: `NAME=value`. The value may be quoted, and outside of
single quotes `$NAME` stands for the value of a variable that is set already. A line that
cannot be read is bad (`Line.bad`).
-/

namespace SteadyStore.EnvFile

/-- What a line says. -/
inductive Line
  /-- Nothing: the line is empty or a comment. -/
  | skip
  | assign (name value : String)
  | bad
deriving DecidableEq, Repr

/-! ## Values -/

/-- Where in a value the reader stands. `inQuotes` is true between double quotes. -/
inductive ValueState
  | plain (inQuotes : Bool)
  | escaped (inQuotes : Bool)
  /-- Between single quotes, where nothing has a meaning. -/
  | literal
  /-- In the name of a variable; the name so far is kept backwards. -/
  | name (inQuotes : Bool) (soFar : List Char)
  /-- In a name between braces. -/
  | braced (inQuotes : Bool) (soFar : List Char)
  /-- After a blank, where only a comment may follow. -/
  | ended
deriving DecidableEq, Repr

/-- The character that an escape stands for. -/
def escape? (c : Char) : Option Char :=
  if c = 'n' then some '\n'
  else if c ∈ ['\\', '\'', '"', '$', ' '] then some c
  else none

/-- The value of the variable whose name was read. One that is not set is empty. -/
def substitute (vars : Variables) (soFar : List Char) : List Char :=
  (vars.find? soFar.reverse).getD []

/-- The characters of a value from a state on; `none` if the value is bad. -/
def readValue (vars : Variables) : ValueState → List Char → Option (List Char)
  | .plain inQuotes, [] => if inQuotes then none else some []
  | .plain inQuotes, c :: cs =>
    if c = '$' then readValue vars (.name inQuotes []) cs
    else if c = '\\' then readValue vars (.escaped inQuotes) cs
    else if c = '"' then readValue vars (.plain (!inQuotes)) cs
    else if inQuotes then (readValue vars (.plain true) cs).map (c :: ·)
    else if c = '\'' then readValue vars .literal cs
    else if c = ' ' ∨ c = '\t' then readValue vars .ended cs
    else (readValue vars (.plain false) cs).map (c :: ·)
  | .escaped inQuotes, [] => if inQuotes then none else some []
  | .escaped inQuotes, c :: cs =>
    match escape? c with
    | none => none
    | some e => (readValue vars (.plain inQuotes) cs).map (e :: ·)
  | .literal, [] => none
  | .literal, c :: cs =>
    if c = '\'' then readValue vars (.plain false) cs
    else (readValue vars .literal cs).map (c :: ·)
  | .name inQuotes soFar, [] => if inQuotes then none else some (substitute vars soFar)
  | .name inQuotes soFar, c :: cs =>
    if isAlphanumeric c then readValue vars (.name inQuotes (c :: soFar)) cs
    else if c = '\x7b' ∧ soFar = [] then readValue vars (.braced inQuotes []) cs
    else
      let rest :=
        if c = '$' then readValue vars (.name inQuotes []) cs
        else (readValue vars (.plain inQuotes) cs).map (c :: ·)
      rest.map (substitute vars soFar ++ ·)
  | .braced _ _, [] => none
  | .braced inQuotes soFar, c :: cs =>
    if c = '\x7d' then
      (readValue vars (.plain inQuotes) cs).map (substitute vars soFar ++ ·)
    else readValue vars (.braced inQuotes (c :: soFar)) cs
  | .ended, [] => some []
  | .ended, c :: cs =>
    if c = ' ' ∨ c = '\t' then readValue vars .ended cs
    else if c = '#' then some []
    else none

/-! ## Lines -/

def isNameStart (c : Char) : Bool := c.isAlpha || c = '_'

def isNamePart (c : Char) : Bool := c.isAlphanum || c = '_' || c = '.'

/-- A name and what follows it and the blanks after it. -/
def readName? (cs : List Char) : Option (String × List Char) :=
  match cs with
  | [] => none
  | c :: _ =>
    if isNameStart c then
      some (String.ofList (cs.takeWhile isNamePart), (cs.dropWhile isNamePart).dropWhile isBlank)
    else none

/-- Drops the sign between name and value. -/
def afterEquals? : List Char → Option (List Char)
  | '=' :: cs => some cs
  | _ => none

/-- A name and the text of its value. The word `export` may stand in front of a name, and is
a name itself if the sign follows. -/
def readTarget? (cs : List Char) : Option (String × List Char) := do
  let (name, rest) ← readName? cs
  match afterEquals? rest with
  | some value => some (name, value)
  | none =>
    if name = "export" then
      let (name, rest) ← readName? rest
      let value ← afterEquals? rest
      some (name, value)
    else none

/-- Reads a line with the variables that are set. -/
def Line.ofChars (vars : Variables) (cs : List Char) : Line :=
  let text := trimBlanks cs
  if text.isEmpty || text.head? = some '#' then .skip
  else
    match readTarget? text with
    | none => .bad
    | some (name, rest) =>
      let value := rest.dropWhile isBlank
      if value.isEmpty || value.head? = some '#' then .assign name ""
      else
        match readValue vars (.plain false) value with
        | none => .bad
        | some value => .assign name (String.ofList value)

end SteadyStore.EnvFile
