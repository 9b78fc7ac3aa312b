/-!
# Configuration of the log

The name of the service, the filter that decides which events are printed, and the form of
the lines.
-/

namespace SteadyStore

structure LoggingConfig where
  /-- The name of the service, reported at the start. -/
  serviceName : String
  /-- The filter to use when the environment names none. -/
  logLevel : String
  /-- Lines are documents instead of plain text. -/
  jsonOutput : Bool
deriving DecidableEq, Repr

namespace LoggingConfig

protected def default : LoggingConfig :=
  { serviceName := "census-service", logLevel := "info", jsonOutput := false }

instance : Inhabited LoggingConfig := ⟨.default⟩

end LoggingConfig

end SteadyStore
