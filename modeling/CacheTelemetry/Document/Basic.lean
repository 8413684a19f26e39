import CacheTelemetry.Datum
import CacheTelemetry.Fault.Kind
import CacheTelemetry.OrderedMap

/-!
# Documents

What a configuration document is read into. Beyond plain values a document may hold bytes, moments
in time, collections of which no more is known, and texts with an unpaired surrogate, which are no
Unicode texts. A document that is a table has texts for its keys.
-/

namespace CacheTelemetry

/-- The formats of configuration documents. -/
inductive Format where
  | yaml
  | toml
  | json
  deriving DecidableEq, Repr, Inhabited

/-- The name of a format. -/
def Format.name : Format → String
  | .yaml => "YAML"
  | .toml => "TOML"
  | .json => "JSON"

/-- Values that only some formats know. -/
inductive Exotic where
  | bytes (octets : List UInt8)
  | moment
  | collection
  | brokenText (units : List Nat)
  deriving DecidableEq, Repr, Inhabited

namespace Document

/-- A value in a document. -/
abbrev Value := Datum Exotic

/-- A table of named values. -/
abbrev Table := OrderedMap String Value

/-- Why the bytes of a document cannot be read. -/
inductive Fault where
  /-- The bytes are not UTF-8. -/
  | encoding
  /-- The text breaks the rules of its format. -/
  | malformed (format : Format)
  /-- A date or time outside the calendar, or a number that its text does not denote. -/
  | impossibleValue
  /-- A code point that does not fit into 31 bits. -/
  | hugeCodePoint
  /-- A place in base sixty whose value is too large for a double. -/
  | hugePlace
  /-- Values nested too deep, or inside themselves where they must not be. -/
  | tooDeep
  /-- A number with more digits than are read. -/
  | longNumber
  /-- A number without digits. -/
  | emptyNumber
  /-- A word that is no truth value. -/
  | unknownFlag
  /-- A text that is no moment in time. -/
  | unknownMoment
  /-- A table in the place of the text of a moment. -/
  | momentNotText
  /-- A table that has something else than texts for keys. -/
  | keyNotText
  deriving DecidableEq, Repr, Inhabited

/-- The kind of a fault in a document. -/
def Fault.kind : Fault → FaultKind
  | .encoding => .encoding
  | .malformed .yaml => .yaml
  | .malformed .toml => .toml
  | .malformed .json => .json
  | .impossibleValue | .longNumber => .value
  | .hugeCodePoint | .hugePlace => .overflow
  | .tooDeep => .recursion
  | .emptyNumber => .index
  | .unknownFlag => .key
  | .unknownMoment => .member
  | .momentNotText | .keyNotText => .type

end Document

end CacheTelemetry
