import CacheTelemetry.Document.Yaml.Content

/-!
# YAML documents

A reader for YAML 1.1. A text is taken apart into tokens, the tokens describe a graph of nodes, and
the graph has a value. A text without a document is null.
-/

namespace CacheTelemetry.Document.Yaml

/-- The value written by a text, as far as it arrives. -/
def readArrival (a : Arrival) : Except Fault Value := do
  match ← Graph.ofTokens (.ofText a) with
  | some (g, root) => g.toValue root
  | none => return .null

/-- The value written by a text in UTF-8. -/
def read (octets : List UInt8) : Except Fault Value := readArrival (.ofOctets octets)

end CacheTelemetry.Document.Yaml
