/-!
# Kinds of faults

A fault belongs to a kind. Nine kinds are the library's own and form a small hierarchy with
`FaultKind.telemetry` on top; the others come from foreign code, from readers of documents and from
the metrics registry. An interruption is no error: nothing here ever handles it.
-/

namespace CacheTelemetry

/-- The kinds of faults. -/
inductive FaultKind where
  /-- The most general of the library's own faults. -/
  | telemetry
  /-- A configuration that cannot be loaded. -/
  | settings
  /-- A text or a list of properties that is no object name. -/
  | malformedName
  /-- The most general fault of a management registry. -/
  | management
  /-- No bean under the name. -/
  | notRegistered
  /-- Already a bean under the name. -/
  | alreadyRegistered
  /-- A bean without the attribute. -/
  | noSuchAttribute
  /-- A bean that failed while an attribute was read. -/
  | beanOperation
  /-- Statistics that could not be read. -/
  | statisticsRead
  /-- An assignment to settings, or their construction, with values that are not valid. -/
  | validation
  /-- A metric name that is taken. -/
  | takenSeries
  /-- A malformed document in JSON. -/
  | json
  /-- A malformed document in TOML. -/
  | toml
  /-- A malformed document in YAML. -/
  | yaml
  /-- Bytes that are not text. -/
  | encoding
  /-- Text that no bytes stand for. -/
  | unencodable
  /-- A directory in the place of a file. -/
  | directory
  | runtime
  | value
  | key
  | index
  | member
  | type
  | overflow
  | zeroDivision
  | connection
  | system
  | recursion
  | interrupt
  deriving DecidableEq, Repr, Inhabited

namespace FaultKind

/-- Faults that a handler of errors catches: all but an interruption. -/
def isError : FaultKind → Bool
  | .interrupt => false
  | _ => true

/-- The kind directly above one of the library's own kinds. -/
def parent? : FaultKind → Option FaultKind
  | .settings | .malformedName | .management | .statisticsRead => some .telemetry
  | .notRegistered | .alreadyRegistered | .noSuchAttribute | .beanOperation => some .management
  | _ => none

/-- A kind and the kinds above it, from the kind itself upward. -/
def ancestry (k : FaultKind) : List FaultKind :=
  match k.parent? with
  | none => [k]
  | some p =>
    match p.parent? with
    | none => [k, p]
    | some q => [k, p, q]

/-- The library's own kinds: the general one and all below it. -/
def isOwn (k : FaultKind) : Bool := k.ancestry.contains .telemetry

/-- No kind has more than two kinds above it, so an ancestry is complete. -/
theorem parent?_getLast_ancestry (k : FaultKind) :
    k.ancestry.getLast?.bind parent? = none := by
  cases k <;> rfl

end FaultKind

end CacheTelemetry
