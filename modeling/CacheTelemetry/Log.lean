import CacheTelemetry.Fault.Kind

/-!
# Log records

What the parts of the library tell about their work. A record names the part that wrote it, its
weight and its wording, and the kind of the fault that it reports, if it reports one.
-/

namespace CacheTelemetry

/-- The parts of the library that write records. -/
inductive LogSource where
  | registry
  | collector
  | exports
  deriving DecidableEq, Repr, Inhabited

/-- The weight of a record. -/
inductive LogLevel where
  | debug
  | info
  | warning
  deriving DecidableEq, Repr, Inhabited

/-- One record of the log. -/
structure LogRecord where
  source : LogSource
  level : LogLevel
  message : String
  fault : Option FaultKind
  deriving DecidableEq, Repr, Inhabited

/-- A record of detail. -/
def LogRecord.detail (source : LogSource) (message : String) : LogRecord :=
  ⟨source, .debug, message, none⟩

end CacheTelemetry
