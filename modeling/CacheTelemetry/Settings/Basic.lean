import CacheTelemetry.Document.Basic
import CacheTelemetry.ObjectName.Properties
import CacheTelemetry.Text.Blank
import CacheTelemetry.Text.Case
import CacheTelemetry.Text.Utf8

/-!
# Settings

The three settings of a collector: the domain and the type under which statistics are looked up, and
whether a failing cache is skipped. Texts are trimmed before they are checked, so a setting never
has blanks at its ends; the rules on a setting are part of its type.

A setting comes in as a value of a document. `Settings.ofTable` checks a whole table and reports
every field that is rejected; `Settings.assign` changes one field. Both use the same check of a
field, `DomainText.check`, `TypeText.check` or `checkFlag`. Names with an underscore in front are
private: values may be given to them, but they are no settings. That the whole table behind an
object can be replaced under such a name, past all checks, is left out.
-/

namespace CacheTelemetry

/-- Why a value is rejected for a field. -/
inductive Rejection where
  | notText
  | brokenText
  | notFlag
  | unreadableFlag
  | illegalDomain (domain : String)
  | emptyType
  | illegalType (type : String)
  | unexpectedField
  | noSuchField (field : String)
  deriving DecidableEq, Repr, Inhabited

namespace Rejection

/-- The name of the broken rule. -/
def tag : Rejection → String
  | .notText => "string_type"
  | .brokenText => "string_unicode"
  | .notFlag => "bool_type"
  | .unreadableFlag => "bool_parsing"
  | .illegalDomain _ | .emptyType | .illegalType _ => "value_error"
  | .unexpectedField => "extra_forbidden"
  | .noSuchField _ => "no_such_attribute"

/-- The wording of the broken rule. -/
def message : Rejection → String
  | .notText => "Input should be a valid string"
  | .brokenText => "Input should be a valid string, unable to parse raw data as a unicode string"
  | .notFlag => "Input should be a valid boolean"
  | .unreadableFlag => "Input should be a valid boolean, unable to interpret input"
  | .illegalDomain d => "Value error, 对象名的域包含非法字符: " ++ Text.quoted d
  | .emptyType => "Value error, 统计类型不能为空"
  | .illegalType t => "Value error, 统计类型包含非法字符: " ++ Text.quoted t
  | .unexpectedField => "Extra inputs are not permitted"
  | .noSuchField f => "Object has no attribute '" ++ f ++ "'"

end Rejection

/-- Rejected fields with their reasons. -/
abbrev Rejections := List (String × Rejection)

/-- The first line of a report on rejected fields. -/
def Rejections.headline (r : Rejections) : String :=
  let noun := if r.length = 1 then "error" else "errors"
  toString r.length ++ " validation " ++ noun ++ " for ExporterConfig"

/-- Why a value cannot be given to a name. -/
inductive AssignmentFault where
  | rejected (why : Rejection)
  | readOnly
  | structural
  deriving DecidableEq, Repr, Inhabited

/-- A value as a text: texts as they are, bytes if they are UTF-8. -/
def Document.Value.asText : Document.Value → Except Rejection String
  | .text s => .ok s
  | .special (.bytes octets) =>
    match Text.decodeUtf8? octets with
    | some s => .ok s
    | none => .error .brokenText
  | .special (.brokenText _) => .error .brokenText
  | _ => .error .notText

/-- The rules for the domain: no forbidden character, no blanks at the ends. -/
structure IsDomainText (s : String) : Prop where
  avoids : ObjectName.Avoids ObjectName.barsDomain s
  trimmed : Text.trim s = s

/-- The rules for the statistics type: not empty, no character that a key must not hold, no blanks
at the ends. -/
structure IsTypeText (s : String) : Prop where
  ne_empty : s ≠ ""
  avoids : ObjectName.Avoids ObjectName.barsKey s
  trimmed : Text.trim s = s

/-- A domain that may be set. -/
abbrev DomainText := { s : String // IsDomainText s }

/-- A statistics type that may be set. -/
abbrev TypeText := { s : String // IsTypeText s }

/-- A domain is trimmed and must then keep the rules. -/
def DomainText.ofText (raw : String) : Except Rejection DomainText :=
  let s := Text.trim raw
  if h : ObjectName.Avoids ObjectName.barsDomain s then
    .ok ⟨s, h, Text.trim_trim raw⟩
  else .error (.illegalDomain s)

/-- A statistics type is trimmed and must then keep the rules. -/
def TypeText.ofText (raw : String) : Except Rejection TypeText :=
  let s := Text.trim raw
  if hne : s = "" then .error .emptyType
  else if h : ObjectName.Avoids ObjectName.barsKey s then
    .ok ⟨s, hne, h, Text.trim_trim raw⟩
  else .error (.illegalType s)

/-- The domain given by a value. -/
def DomainText.check (v : Document.Value) : Except Rejection DomainText :=
  v.asText.bind DomainText.ofText

/-- The statistics type given by a value. -/
def TypeText.check (v : Document.Value) : Except Rejection TypeText :=
  v.asText.bind TypeText.ofText

/-- The truth value that a word stands for, in any ASCII case and without trimming. -/
def flagOfWord (s : String) : Except Rejection Bool :=
  let w := Text.lowerAscii s
  if w ∈ ["1", "on", "t", "true", "y", "yes"] then .ok true
  else if w ∈ ["0", "off", "f", "false", "n", "no"] then .ok false
  else .error .unreadableFlag

/-- The truth value that a number stands for: one or zero. Integers beyond 64 bits are no truth
values at all. -/
def flagOfInt (i : Int) : Except Rejection Bool :=
  if i = 0 then .ok false
  else if i = 1 then .ok true
  else if -0x8000000000000000 ≤ i ∧ i < 0x8000000000000000 then .error .unreadableFlag
  else .error .notFlag

/-- The truth value that a double stands for: that of the integer that it equals, if it lies within
64 bits. -/
def flagOfDouble (x : Binary64) : Except Rejection Bool :=
  match x.toInt? with
  | some i => if i.natAbs < 0x8000000000000000 then flagOfInt i else .error .notFlag
  | none => .error .notFlag

/-- The truth value given by a value. -/
def checkFlag : Document.Value → Except Rejection Bool
  | .bool b => .ok b
  | .int i => flagOfInt i
  | .float x => flagOfDouble x
  | .text s => flagOfWord s
  | .special (.bytes octets) =>
    match Text.decodeUtf8? octets with
    | some s => flagOfWord s
    | none => .error .unreadableFlag
  | .special (.brokenText _) => .error .brokenText
  | _ => .error .notFlag

/-- The settings of a collector. -/
structure Settings where
  domain : DomainText
  statisticsType : TypeText
  isolateFailures : Bool
  deriving DecidableEq

/-- The names of the three fields. -/
inductive Field where
  | domain
  | statisticsType
  | isolateFailures
  deriving DecidableEq, Repr, Inhabited

namespace Field

/-- The fields in their order. -/
def all : List Field := [.domain, .statisticsType, .isolateFailures]

/-- The name of a field in a table. -/
def name : Field → String
  | .domain => "object_name_domain"
  | .statisticsType => "statistics_type"
  | .isolateFailures => "isolate_failures"

/-- The field with a name. -/
def ofName? (s : String) : Option Field := all.find? fun f => f.name == s

end Field

namespace Settings

/-- The default domain. -/
def defaultDomain : DomainText := ⟨"javax.cache", ⟨by decide, by decide⟩⟩

/-- The default statistics type. -/
def defaultType : TypeText := ⟨"CacheStatistics", ⟨by decide, by decide, by decide⟩⟩

/-- The settings that hold where nothing else is said. -/
def standard : Settings := ⟨defaultDomain, defaultType, false⟩

instance : Inhabited Settings := ⟨standard⟩

/-- The value of a field in a table, checked; the default if the table has no such field. -/
def checkField {β : Type} (t : Document.Table) (f : Field) (default : β)
    (check : Document.Value → Except Rejection β) : Except Rejection β :=
  match t.get? f.name with
  | none => .ok default
  | some v => check v

/-- The rejection that a check ended in, under the name of its field. -/
def rejectionOf {β : Type} (f : Field) : Except Rejection β → Rejections
  | .ok _ => []
  | .error r => [(f.name, r)]

/-- The names in a table that are no fields. -/
def unexpected (t : Document.Table) : Rejections :=
  (t.keys.filter fun k => (Field.ofName? k).isNone).map fun k => (k, .unexpectedField)

/-- The settings given by a table. If anything is rejected, all rejected fields are reported, in the
order of their names. -/
def ofTable (t : Document.Table) : Except Rejections Settings :=
  let domain := checkField t .domain defaultDomain DomainText.check
  let type := checkField t .statisticsType defaultType TypeText.check
  let flag := checkField t .isolateFailures false checkFlag
  match domain, type, flag, unexpected t with
  | .ok d, .ok s, .ok b, [] => .ok ⟨d, s, b⟩
  | _, _, _, others =>
    let all := rejectionOf .domain domain ++ rejectionOf .statisticsType type ++
      rejectionOf .isolateFailures flag ++ others
    .error (all.mergeSort fun a b => a.1 ≤ b.1)

/-- The settings with a field changed. -/
def change (s : Settings) (f : Field) (v : Document.Value) : Except Rejection Settings :=
  match f with
  | .domain => (DomainText.check v).map fun d => { s with domain := d }
  | .statisticsType => (TypeText.check v).map fun t => { s with statisticsType := t }
  | .isolateFailures => (checkFlag v).map fun b => { s with isolateFailures := b }

/-- Names under which settings can be asked about themselves. They cannot be assigned to. -/
def readOnlyNames : List String :=
  ["model_extra", "model_fields_set", "__fields_set__", "__weakref__"]

/-- Names for what settings are built from. They take no plain value. -/
def structuralNames : List String := ["__class__"]

/-- A private name. -/
def isPrivate (name : String) : Bool := name.toList.head? == some '_'

/-- The settings after a value was given to a name. If the name is a field the field changes; a
private name changes nothing. One private name is left out here, `__dict__`, under which the fields
themselves are kept: a table that is given to it takes their place without being checked. -/
def assign (s : Settings) (name : String) (v : Document.Value) : Except AssignmentFault Settings :=
  match Field.ofName? name with
  | some f => (s.change f v).mapError .rejected
  | none =>
    if name ∈ readOnlyNames then .error .readOnly
    else if name ∈ structuralNames then .error .structural
    else if isPrivate name then .ok s
    else .error (.rejected (.noSuchField name))

/-- The settings in text. -/
def text (s : Settings) : String :=
  "ExporterConfig(object_name_domain=" ++ Text.quoted s.domain.val ++
    ", statistics_type=" ++ Text.quoted s.statisticsType.val ++
    ", isolate_failures=" ++ (if s.isolateFailures then "True" else "False") ++ ")"

end Settings

end CacheTelemetry
