/-!
# Variables

The variables a program is started with: names with texts. A variable can be set, but one
that is set already keeps its text (`setDefault`).

The environment holds each variable as an entry `name=value`, and a search for a name is one
for an entry that starts with the name and the sign (`find?`). Names without the sign find
their variable.
-/

namespace SteadyStore

/-- The values of the variables that are set. -/
abbrev Variables := String → Option String

namespace Variables

/-- Sets a variable, unless it is set. -/
def setDefault (vars : Variables) (name value : String) : Variables := fun other =>
  if other = name then some ((vars name).getD value) else vars other

/-- A variable that was set keeps its text. -/
theorem setDefault_keeps {vars : Variables} {name other text : String}
    (h : vars other = some text) (value : String) :
    vars.setDefault name value other = some text := by
  by_cases same : other = name
  · subst same
    simp [setDefault, h]
  · simp [setDefault, same, h]

/-- What stands behind a name and the sign in the entry that starts with both. A name that
holds the sign itself reaches into the value of the variable in front of it. -/
def find? (vars : Variables) (name : List Char) : Option (List Char) := do
  let value ← vars (String.ofList (name.takeWhile (· ≠ '=')))
  match name.dropWhile (· ≠ '=') with
  | [] => some value.toList
  | _ :: start =>
    if (start ++ ['=']).isPrefixOf value.toList then some (value.toList.drop (start.length + 1))
    else none

end Variables

end SteadyStore
