import SteadyStore.Logging.Config
import SteadyStore.Settings.Lookup
/-!
# Loading configurations

The variables from which services are configured. A variable that is not set leaves its
setting as it is by default. `RetryConfig.load` gives valid configurations only.
-/

namespace SteadyStore

/-! ## Retries -/

namespace RetryConfig

/-- The variable with the first delay in milliseconds. -/
def initialVariable : String := "CLOUD_STORAGE_BACKOFF_INITIAL"

def multiplierVariable : String := "CLOUD_STORAGE_BACKOFF_MULTIPLIER"

/-- The variable with the longest delay in milliseconds. -/
def maxVariable : String := "CLOUD_STORAGE_BACKOFF_MAX"

def maxAttemptsVariable : String := "CLOUD_STORAGE_BACKOFF_MAX_ATTEMPTS"

/-- The milliseconds of a span, or the most that can be configured. -/
def configuredMillis (d : Duration) : UInt64 := UInt64.ofNat (min d.millis (UInt64.size - 1))

/-- The configuration in the variables, as it stands. -/
def loadFields (vars : Variables) : Lookup RetryConfig := do
  let standard := RetryConfig.default
  let initial ← Lookup.value vars .word64 initialVariable (configuredMillis standard.initialDelay)
  let multiplier ← Lookup.value vars .decimal multiplierVariable standard.multiplier
  let max ← Lookup.value vars .word64 maxVariable (configuredMillis standard.maxDelay)
  let maxAttempts ← Lookup.value vars .word32 maxAttemptsVariable standard.maxAttempts
  return { initialDelay := .ofMillis initial, multiplier, maxDelay := .ofMillis max, maxAttempts }

/-- The configuration in the variables, if it is valid. -/
def load (vars : Variables) : Lookup RetryConfig := do
  let config ← loadFields vars
  match config.validate with
  | .error fault => Lookup.fail (.unusable fault)
  | .ok () => return config

end RetryConfig

/-! ## Logging -/

namespace LoggingConfig

/-- The text asks for lines that are documents. -/
def asksForJson (format : String) : Bool := format.toList.map Char.toLower = "json".toList

/-- The configuration in the variables. Every text is a value, so this cannot fail. -/
def load (vars : Variables) : Lookup LoggingConfig := do
  let standard := LoggingConfig.default
  let name ← Lookup.textOf? vars "SERVICE_NAME"
  let level ← Lookup.textOf? vars "LOG_LEVEL"
  let format ← Lookup.textOf? vars "LOG_FORMAT"
  return { serviceName := name.getD standard.serviceName
           logLevel := level.getD standard.logLevel
           jsonOutput := (format.map asksForJson).getD standard.jsonOutput }

end LoggingConfig

/-! ## Services -/

/-- What a service needs to use the document store. -/
structure StorageConfig where
  retry : RetryConfig
  logging : LoggingConfig
deriving DecidableEq

namespace StorageConfig

def loadedEvent (config : StorageConfig) : Event :=
  { level := .info
    component := .settings
    message := "Loaded cloud storage configuration"
    fields := [("retry", .bare config.retry.text), ("service", .bare config.logging.serviceName)] }

/-- The configuration in the variables, which is reported. -/
def load (vars : Variables) : Lookup StorageConfig := do
  let retry ← RetryConfig.load vars
  let logging ← LoggingConfig.load vars
  let config : StorageConfig := { retry, logging }
  Lookup.log config.loadedEvent
  return config

end StorageConfig

end SteadyStore
