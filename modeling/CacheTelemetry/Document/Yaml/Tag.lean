import CacheTelemetry.Document.Yaml.Moment
import CacheTelemetry.Document.Yaml.Number

/-!
# Tags of YAML

What a tag says a value is. A plain scalar without a tag gets one by its form: `Tag.ofScalar`. For
this a single line feed at its end does not count.
-/

namespace CacheTelemetry.Document.Yaml

/-- The tags that mean something, and one for all others. -/
inductive Tag where
  | null
  | bool
  | int
  | float
  | binary
  | timestamp
  | omap
  | pairs
  | set
  | str
  | seq
  | map
  /-- The key under which entries of another mapping are taken over. -/
  | merge
  /-- The key under which a mapping holds its own scalar. -/
  | value
  | other
  deriving DecidableEq, Repr, Inhabited

namespace Tag

/-- The lead of the standard tags. -/
def standardLead : String := "tag:yaml.org,2002:"

/-- The standard tags by their names. The last two are written in place of a key and stand for
nothing else. -/
def names : List (String × Tag) :=
  [("null", .null), ("bool", .bool), ("int", .int), ("float", .float), ("binary", .binary),
    ("timestamp", .timestamp), ("omap", .omap), ("pairs", .pairs), ("set", .set), ("str", .str),
    ("seq", .seq), ("map", .map), ("merge", .merge), ("value", .value)]

/-- The tag with a text. -/
def ofText (s : String) : Tag :=
  ((names.find? fun p => standardLead ++ p.1 == s).map Prod.snd).getD .other

/-- A tag of values that contain others. No such value can be a key. -/
def isCollection : Tag → Bool
  | .omap | .pairs | .set | .seq | .map => true
  | _ => false

/-- The words for truth values, each in small letters, in capital letters, and with a capital
first. -/
def boolWords : List String :=
  ["yes", "Yes", "YES", "no", "No", "NO", "true", "True", "TRUE", "false", "False", "FALSE",
    "on", "On", "ON", "off", "Off", "OFF"]

/-- The words for null. -/
def nullWords : List String := ["~", "null", "Null", "NULL"]

/-- A text without one line feed at its end. -/
def dropLastBreak (cs : List Char) : List Char :=
  if cs.getLast? = some '\n' then cs.dropLast else cs

/-- The tag of a scalar by its form. -/
def ofScalar (cs : List Char) : Tag :=
  let body := dropLastBreak cs
  let word := String.ofList body
  if cs.isEmpty ∨ nullWords.contains word then .null
  else if boolWords.contains word then .bool
  else if hasFloatForm body then .float
  else if hasIntegerForm body then .int
  else if word = "<<" then .merge
  else if (Moment.parse? body).any (·.isEvident) then .timestamp
  else if word = "=" then .value
  else if word ∈ ["!", "&", "*"] then .other
  else .str

end Tag

end CacheTelemetry.Document.Yaml
