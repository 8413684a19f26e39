import CacheTelemetry.ObjectName.Basic
import CacheTelemetry.Text.Split

/-!
# Object names in text

The written form of an object name is `domain:key=value,key=value,...`. The domain ends at the first
colon, properties are separated by commas, and a key ends at the first equals sign of its property.
Nothing is escaped: the rules on the parts keep the separators out of the places where they would
be mistaken, and what a reading splits off is checked by the same rules as a name built directly.
-/

namespace CacheTelemetry.ObjectName

/-- The property written by one item of the list. -/
def readProperty (item : List Char) : Except Malformed Property :=
  match Text.cut? '=' item with
  | none => .error (.noEquals (String.ofList item))
  | some (key, value) => .ok (String.ofList key, String.ofList value)

/-- The domain and the properties written by a text, before any check of the rules on them. -/
def readParts (text : String) : Except Malformed (String × List Property) :=
  match Text.cut? ':' text.toList with
  | none | some (_, []) => .error (.noPropertyList text)
  | some (domain, rest) =>
    ((Text.pieces ',' rest).mapM readProperty).map fun ps => (String.ofList domain, ps)

/-- The name written by a text. -/
def parse (text : String) : Except Malformed ObjectName :=
  (readParts text).bind fun (domain, ps) => ofProperties domain ps

end CacheTelemetry.ObjectName
