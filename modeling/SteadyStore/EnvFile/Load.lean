import SteadyStore.EnvFile.Assignment
import SteadyStore.EnvFile.Lines
import SteadyStore.EnvFile.Reader
/-!
# Loading from the environment

Reads environment files of assignments (`EnvFile.reader`). The nearest file above the directory that a
program was started in counts. Variables that are set win over the file, and within the file the first
assignment wins.
-/

namespace SteadyStore

namespace EnvFile

/-- Sets variables line by line, up to the first bad line. -/
def applyLines (vars : Variables) : List (List Char) → Variables
  | [] => vars
  | line :: lines =>
    match Line.ofChars vars line with
    | .skip => applyLines vars lines
    | .assign name value => applyLines (vars.setDefault name value) lines
    | .bad => vars

/-- What a line says, whatever is set. -/
def statement (line : List Char) : Statement :=
  match Line.ofChars (fun _ => none) line with
  | .skip => .nothing
  | .assign name _ =>
    .assign name fun vars =>
      match Line.ofChars vars line with
      | .assign _ text => text
      | _ => ""
  | .bad => .bad

def reader : Reader (List Char) := { lines := logicalLines, reads := statement, apply := applyLines }

end EnvFile

/-- What a program is started with: its variables, and the environment files in its
directory and those above it, the nearest first. A directory may have none. -/
structure Surroundings where
  vars : Variables
  envFiles : List (Option String)

namespace Surroundings

/-- The nearest environment file. -/
def nearestFile? (s : Surroundings) : Option String := s.envFiles.findSome? id

/-- Loads the nearest environment file, and looks settings up in what is set then. -/
def lookUp {α : Type} (s : Surroundings) (load : Variables → Lookup α) :
    Lookup α × Surroundings :=
  let (found, vars) := EnvFile.reader.lookUp s.nearestFile? load s.vars
  (found, { s with vars })

end Surroundings

end SteadyStore
