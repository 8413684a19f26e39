import CacheTelemetry.Document.Json
import CacheTelemetry.Document.Toml
import CacheTelemetry.Document.Yaml
import CacheTelemetry.Text.Lines
import CacheTelemetry.Text.Utf8

/-!
# From bytes to documents

A document comes as octets in UTF-8. What it says depends on its format, which is told by the
suffix of the file that it came from. A document that is to be a table must have texts for keys.
-/

namespace CacheTelemetry

/-- The format of files with a suffix in small letters. -/
def Format.ofSuffix? : String → Option Format
  | ".yaml" | ".yml" => some .yaml
  | ".toml" => some .toml
  | ".json" => some .json
  | _ => none

namespace Document

/-- A way to read octets in a format. -/
abbrev Decoder := Format → List UInt8 → Except Fault Value

/-- A text with a line feed for each line break. -/
def withLineFeeds (s : String) : String := String.ofList (Text.unifyBreaks s.toList)

/-- The text encoded by octets. -/
def textOf (octets : List UInt8) : Except Fault String :=
  match Text.decodeUtf8? octets with
  | some s => .ok s
  | none => .error .encoding

/-- The value written by octets in a format. Only YAML is read while it arrives. In TOML it matters
which line breaks there are. -/
def decode : Decoder := fun format octets =>
  match format with
  | .yaml => Yaml.read octets
  | .toml => (textOf octets).bind Toml.read
  | .json => (textOf octets).bind fun s => Json.read (withLineFeeds s)

/-- Why entries make no table of named values. -/
inductive KeyFault where
  /-- A key is no text. -/
  | notText
  /-- All keys are texts, but one of them is no Unicode text. -/
  | brokenText
  deriving DecidableEq, Repr, Inhabited

/-- The entries of a table, if all its keys are texts. -/
def namedEntries : List (Value × Value) → Except KeyFault (List (String × Value))
  | [] => .ok []
  | (.text k, v) :: rest => (namedEntries rest).map ((k, v) :: ·)
  | (.special (.brokenText _), _) :: rest => (namedEntries rest).bind fun _ => .error .brokenText
  | _ => .error .notText

/-- The table of some entries. -/
def tableOf (entries : List (Value × Value)) : Except KeyFault Table :=
  (namedEntries entries).map .ofList

end Document

end CacheTelemetry
