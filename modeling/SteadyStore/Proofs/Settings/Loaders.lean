import SteadyStore.Proofs.EnvFile.Assignments
import SteadyStore.Proofs.Settings.Loading
/-!
# Loaders in one program

Each loader loads the environment file again before it looks settings up. Only the first time
changes variables (`load_load`), so the loaders of a program answer in any order as if each were the
first (`loaders_answer_as_first`).
-/

namespace SteadyStore

inductive Loader
  | retry
  | logging
  | storage

namespace Loader

/-- What a loader finds, the names that it asked for, and the events that it logged. -/
inductive Answer
  | retry (found : Lookup RetryConfig)
  | logging (found : Lookup LoggingConfig)
  | storage (found : Lookup StorageConfig)

/-- What a loader looks up in variables. -/
def answer (vars : Variables) : Loader → Answer
  | retry => .retry (RetryConfig.load vars)
  | logging => .logging (LoggingConfig.load vars)
  | storage => .storage (StorageConfig.load vars)

end Loader

namespace EnvFile.Reader

variable {Line : Type} (reader : Reader Line) (file? : Option String)

/-! ## The environment file -/

/-- The lines of the environment file. There are none without a file. -/
def fileLines : List Line :=
  match file? with
  | none => []
  | some content => reader.lines content

/-! ## Calls -/

/-- Calls a loader: what it answers, and the variables that it leaves. -/
def call (vars : Variables) : Loader → Loader.Answer × Variables
  | .retry => (RetryConfig.ofEnvironment reader file? vars).map .retry id
  | .logging => (LoggingConfig.ofEnvironment reader file? vars).map .logging id
  | .storage => (StorageConfig.ofEnvironment reader file? vars).map .storage id

/-- Calls loaders one after another: what they answer, and the variables that they leave. -/
def callAll (vars : Variables) : List Loader → List Loader.Answer × Variables
  | [] => ([], vars)
  | loader :: loaders =>
    let (answer, next) := reader.call file? vars loader
    let (answers, left) := callAll next loaders
    (answer :: answers, left)

theorem call_eq (vars : Variables) (loader : Loader) :
    reader.call file? vars loader =
      (loader.answer (reader.load file? vars), reader.load file? vars) := by
  cases loader with
  | retry => rfl
  | logging => rfl
  | storage => rfl

namespace Documented

variable {reader} (documented : reader.Documented)

include documented

theorem load_eq (vars : Variables) :
    reader.load file? vars = reader.apply vars (reader.fileLines file?) := by
  cases file? with
  | none => exact (documented.apply_nil vars).symm
  | some content => rfl

/-- Loading the file again changes nothing. -/
theorem load_load (vars : Variables) :
    reader.load file? (reader.load file? vars) = reader.load file? vars := by
  rw [documented.load_eq, documented.load_eq, documented.apply_apply]

/-- Once the file is loaded, calls change nothing and all read the same variables. -/
theorem callAll_load (vars : Variables) (loaders : List Loader) :
    reader.callAll file? (reader.load file? vars) loaders =
      (loaders.map (·.answer (reader.load file? vars)), reader.load file? vars) := by
  induction loaders with
  | nil => rfl
  | cons loader loaders ih =>
    simp only [callAll, call_eq, documented.load_load, ih, List.map_cons]

theorem callAll_cons (vars : Variables) (loader : Loader) (loaders : List Loader) :
    reader.callAll file? vars (loader :: loaders) =
      ((loader :: loaders).map (·.answer (reader.load file? vars)), reader.load file? vars) := by
  simp only [callAll, call_eq, documented.callAll_load, List.map_cons]

end Documented

end EnvFile.Reader

/-! ## What the loaders find -/

theorem LoggingConfig.exists_load (vars : Variables) :
    ∃ logging, (LoggingConfig.load vars).result = .ok logging :=
  ⟨_, rfl⟩

namespace StorageConfig

theorem load_eq_ok_iff (vars : Variables) (config : StorageConfig) :
    (load vars).result = .ok config ↔
      (RetryConfig.load vars).result = .ok config.retry ∧
        (LoggingConfig.load vars).result = .ok config.logging := by
  obtain ⟨retry, logging⟩ := config
  obtain ⟨found, logs⟩ := LoggingConfig.exists_load vars
  cases loaded : (RetryConfig.load vars).result with
  | error fault =>
    rw [load_of_error loaded]
    simp
  | ok read =>
    rw [load_of_ok loaded logs, logs]
    simp

theorem load_eq_error_iff (vars : Variables) (fault : SettingsFault) :
    (load vars).result = .error fault ↔ (RetryConfig.load vars).result = .error fault := by
  obtain ⟨found, logs⟩ := LoggingConfig.exists_load vars
  cases loaded : (RetryConfig.load vars).result with
  | error other =>
    simp [load_of_error loaded]
  | ok read =>
    simp [load_of_ok loaded logs]

end StorageConfig

/-- Loaders that are called one after another answer as if each were the first one called, and all
read the variables that are left in the end. There each variable that the program was started with
has its text, and a missing one has its first assignment in the file, if there is one in front of
the first bad line. The logging is always loaded. The configuration of a service is loaded if and only
if that of retries is, fails in the same way, and is made of what the other two loaders give. -/
theorem EnvFile.Reader.loaders_answer_as_first {Line : Type} (reader : Reader Line)
    (documented : reader.Documented) (file? : Option String) (vars : Variables)
    (loaders : List Loader) :
    let (answers, left) := reader.callAll file? vars loaders
    answers = loaders.map (fun loader => (reader.call file? vars loader).1) ∧
    answers = loaders.map (·.answer left) ∧
    (∀ name text, vars name = some text → left name = some text) ∧
    (loaders ≠ [] → ∀ name, vars name = none → ∀ value,
      left name = some value ↔ reader.FirstAssigned vars (reader.fileLines file?) name value) ∧
    -- The configuration of a service and the two that it is made of.
    let retry := (RetryConfig.ofEnvironment reader file? vars).1.result
    let logging := (LoggingConfig.ofEnvironment reader file? vars).1.result
    let storage := (StorageConfig.ofEnvironment reader file? vars).1.result
    (∃ found, logging = .ok found) ∧
    (∀ config, storage = .ok config ↔ retry = .ok config.retry ∧ logging = .ok config.logging) ∧
    (∀ fault, storage = .error fault ↔ retry = .error fault) := by
  have services := And.intro (LoggingConfig.exists_load (reader.load file? vars))
    (And.intro (StorageConfig.load_eq_ok_iff (reader.load file? vars))
      (StorageConfig.load_eq_error_iff (reader.load file? vars)))
  cases loaders with
  | nil => exact ⟨rfl, rfl, fun _ _ set => set, fun none => absurd rfl none, services⟩
  | cons loader loaders =>
    rw [documented.callAll_cons]
    refine ⟨?_, rfl, fun name text set => ?_, fun _ name missing value => ?_, services⟩
    · simp only [call_eq]
    · rw [documented.load_eq]
      exact documented.keeps set _
    · rw [documented.load_eq]
      exact documented.apply_eq_some_iff missing _

/-- A text that names a variable has there what was set before, however often the file is loaded.
Nothing is read behind a bad line. -/
theorem EnvFile.loaders_answer_as_first_in_file :
    let vars : Variables := fun name => if name = "SERVICE_NAME" then some "cases" else none
    let file := "SERVICE_NAME=x\nLOG_LEVEL=$LEVEL!\nLEVEL=info\nLOG_LEVEL=$LEVEL\nbad\nLOG_FORMAT=json\n"
    let loaders := [Loader.logging, .storage, .logging]
    let answered := reader.callAll (some file) vars loaders
    reader.Documented ∧
      answered.1 = loaders.map (fun loader => (reader.call (some file) vars loader).1) ∧
      answered.2 "SERVICE_NAME" = some "cases" ∧ answered.2 "LOG_LEVEL" = some "!" ∧
      reader.FirstAssigned vars (reader.fileLines (some file)) "LOG_LEVEL" "!" ∧
      answered.2 "LEVEL" = some "info" ∧ answered.2 "LOG_FORMAT" = none := by
  intro vars file loaders answered
  have texts : answered.2 "LOG_LEVEL" = some "!" ∧ answered.2 "LEVEL" = some "info" ∧
      answered.2 "LOG_FORMAT" = none := by decide +kernel +revert
  obtain ⟨same, -, keeps, assigns, -⟩ :=
    Reader.loaders_answer_as_first reader documented_reader (some file) vars loaders
  exact ⟨documented_reader, same, keeps "SERVICE_NAME" "cases" rfl, texts.1,
    (assigns (List.cons_ne_nil _ _) "LOG_LEVEL" rfl "!").1 texts.1, texts.2⟩

end SteadyStore
