import SteadyStore.Text.Blank
/-!
# Lines of an environment file

A line of an environment file ends where a line of text ends, unless a quotation is still
open there: then the next line of text belongs to it. A comment starts at a number sign
after a blank and ends the line. `logicalLines` cuts a file into its lines; text at the end
of the file that completes no line is not among them.
-/

namespace SteadyStore.EnvFile

/-- Where in a line the reader stands. -/
inductive LineState
  /-- The line can end here. -/
  | complete
  /-- After a blank, where a comment can start. -/
  | blank
  /-- After a backslash. -/
  | escaped
  /-- In a quotation that ends with the same mark. -/
  | quoted (mark : Char)
  /-- After a backslash in a quotation. -/
  | quotedEscaped (mark : Char)
deriving DecidableEq, Repr

/-- What a mark opens outside of quotations. -/
def LineState.opened (c : Char) : Option LineState :=
  if c = '\\' then some .escaped
  else if c = '"' ∨ c = '\'' then some (.quoted c)
  else none

/-- The state after a character. A blank after a blank does not count as one. -/
def LineState.next : LineState → Char → LineState
  | .complete, c =>
    if isBlank c ∧ c ≠ '\n' ∧ c ≠ '\r' then .blank else (opened c).getD .complete
  | .blank, c => (opened c).getD .complete
  | .escaped, _ => .complete
  | .quoted mark, c =>
    if c = '\\' then .quotedEscaped mark else if c = mark then .complete else .quoted mark
  | .quotedEscaped mark, _ => .quoted mark

/-- Reads a line of text from a state: the text in front of a comment, and the state at its
end unless it ended in a comment. -/
def scanLine : LineState → List Char → List Char × Option LineState
  | state, [] => ([], some state)
  | state, c :: cs =>
    if state = .blank ∧ c = '#' then ([], none)
    else
      let (text, ending) := scanLine (state.next c) cs
      (c :: text, ending)

/-- The lines of a text, with the line ends that close them. -/
def textLines : List Char → List (List Char)
  | [] => []
  | c :: cs =>
    if c = '\n' then [c] :: textLines cs
    else
      match textLines cs with
      | [] => [[c]]
      | line :: lines => (c :: line) :: lines

/-- A text without the line end that closes it. -/
def dropLineEnd (text : List Char) : List Char :=
  match text.reverse with
  | '\n' :: '\r' :: rest => rest.reverse
  | '\n' :: rest => rest.reverse
  | _ => text

/-- The text is a comment. -/
def isComment (text : List Char) : Bool := (text.dropWhile isBlank).head? = some '#'

/-- Joins lines of text to logical lines. `pending` is the text of the line that was begun,
and `state` is the state at its end. -/
def joinLines : List Char → LineState → List (List Char) → List (List Char)
  | _, _, [] => []
  | pending, state, line :: lines =>
    if isComment (pending ++ line) then joinLines [] .complete lines
    else
      match scanLine state line with
      | (text, none) => (pending ++ text) :: joinLines [] .complete lines
      | (_, some .complete) => dropLineEnd (pending ++ line) :: joinLines [] .complete lines
      | (_, some state) => joinLines (pending ++ line) state lines

/-- A mark at the start of a file that says how the file is encoded. -/
def byteOrderMark : Char := '\ufeff'

/-- The lines of a file. -/
def logicalLines (content : String) : List (List Char) :=
  let text :=
    match content.toList with
    | c :: cs => if c = byteOrderMark then cs else c :: cs
    | [] => []
  joinLines [] .complete (textLines text)

end SteadyStore.EnvFile
