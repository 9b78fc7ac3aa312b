import SteadyStore.Settings.Load
/-!
# Readers of environment files

A program finds its variables in its environment, and sets those that are missing from an
environment file. How such a file is read is up to a reader (`EnvFile.Reader`). The loaders of
settings have it read the file each time, and look up what is set then (`Reader.lookUp`).
-/

namespace SteadyStore

namespace EnvFile

/-- What a line of a file says by itself. The text that it assigns may depend on the variables that
are set. -/
inductive Statement
  /-- Nothing: the line is empty or a comment. -/
  | nothing
  | assign (name : String) (text : Variables → String)
  | bad

/-- What reads environment files. -/
structure Reader (Line : Type) where
  /-- The lines of a file. -/
  lines : String → List Line
  /-- What a line is read as. -/
  reads : Line → Statement
  /-- The variables once some lines are read. -/
  apply : Variables → List Line → Variables

namespace Reader

variable {Line : Type}

/-- The variables once the file is read, if there is one. -/
def load (reader : Reader Line) (file? : Option String) (vars : Variables) : Variables :=
  match file? with
  | none => vars
  | some content => reader.apply vars (reader.lines content)

/-- Reads the file, and looks settings up in what is set then. -/
def lookUp {α : Type} (reader : Reader Line) (file? : Option String)
    (settings : Variables → Lookup α) (vars : Variables) : Lookup α × Variables :=
  (settings (reader.load file? vars), reader.load file? vars)

end Reader

end EnvFile

section
variable {Line : Type} (reader : EnvFile.Reader Line) (file? : Option String) (vars : Variables)

/-- The retry configuration of an environment. -/
def RetryConfig.ofEnvironment : Lookup RetryConfig × Variables :=
  reader.lookUp file? RetryConfig.load vars

/-- The configuration of the log of an environment. -/
def LoggingConfig.ofEnvironment : Lookup LoggingConfig × Variables :=
  reader.lookUp file? LoggingConfig.load vars

/-- The configuration of a service from its environment. -/
def StorageConfig.ofEnvironment : Lookup StorageConfig × Variables :=
  reader.lookUp file? StorageConfig.load vars

end

end SteadyStore
