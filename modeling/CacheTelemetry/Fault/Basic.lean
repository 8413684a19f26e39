import CacheTelemetry.Fault.Kind
import CacheTelemetry.ObjectName.Statistics
import CacheTelemetry.Settings.Basic

/-!
# Faults

A fault is the cause of a failure: a rule that was broken, an object that is missing, or another
fault that was met on the way. Its kind, its wording and the fault that it was raised from are
functions of the cause.

* `Fault.kind` sorts faults into kinds, `Fault.isError` leaves out interruptions.
* `Fault.message` is the wording. A fault that reports another one holds what that one had to say.
* `Fault.cause?` is the fault that a fault was raised from, `Fault.causes` the chain of these.
-/

namespace CacheTelemetry

/-- Why the settings in a file cannot be loaded. -/
inductive SettingsFileFault where
  /-- Nothing at the path. -/
  | missing (path : String)
  /-- A suffix that belongs to no format. -/
  | unsupported (suffixText : String)
  /-- A document that is no table. -/
  | notTable (format : Format)
  deriving DecidableEq, Repr, Inhabited

/-- The wording for settings that cannot be loaded. -/
def SettingsFileFault.message : SettingsFileFault → String
  | .missing path => "配置文件不存在: " ++ path
  | .unsupported suffixText => "不支持的配置文件格式: " ++ suffixText
  | .notTable format => format.name ++ " 配置文件必须是字典格式"

/-- The causes of failures. -/
inductive Fault where
  /-- Raised by foreign code with a text. -/
  | raised (kind : FaultKind) (text : String)
  /-- No object name. -/
  | malformed (fault : Malformed)
  /-- A cache name that cannot go into an object name. -/
  | unusableCacheName (unusable : UnusableCacheName)
  /-- A pattern in the place of a name. -/
  | pattern (name : ObjectName)
  /-- A bean is already registered under the name. -/
  | alreadyRegistered (name : ObjectName)
  /-- No bean is registered under the name. -/
  | notRegistered (name : ObjectName)
  /-- The bean has no such attribute. -/
  | noSuchAttribute (name : ObjectName) (attr : String) (cause : Option Fault)
  /-- The bean failed to give the attribute; `said` is the message of the cause. -/
  | attributeFailed (name : ObjectName) (attr said : String) (cause : Fault)
  /-- The registry failed to say whether the name is registered. -/
  | queryFailed (name : ObjectName) (said : String) (cause : Fault)
  /-- The registry failed to give an attribute. -/
  | readFailed (name : ObjectName) (attr said : String) (cause : Fault)
  /-- An attribute is no count; `shown` is its quoted form. -/
  | notCount (name : ObjectName) (attr : String) (shown : String)
  /-- Rejected fields. -/
  | rejected (rejections : Rejections)
  /-- A name that cannot be assigned to. -/
  | readOnly (name : String)
  /-- A name that takes no plain value. -/
  | structural (name : String)
  /-- The environment holds values that are rejected. -/
  | environment (rejections : Rejections)
  /-- A name of a variable that no octets stand for. -/
  | unencodable
  /-- A file does not give settings. -/
  | settingsFile (fault : SettingsFileFault)
  /-- A file that was found could not be turned into settings. -/
  | unreadableFile (path : String) (cause : Fault)
  /-- A directory in the place of a file. -/
  | directory (path : String)
  /-- A document could not be read. -/
  | document (fault : Document.Fault)
  /-- A list or a table in the place of a key; `sort` says which. -/
  | unhashable (sort : String)
  /-- An object without the attribute that was asked for. -/
  | absentAttribute (attr : String)
  /-- A label that is no text but of another sort. The family that holds it is shown in full, unless
  it cannot be written. -/
  | labelNotText (sort : String) (family : Option String)
  /-- A count that is too large for a double, with its family. -/
  | tooLarge (family : Option String)
  /-- Metric names that are taken. -/
  | takenSeries (names : List String)
  /-- A text that writes no integer. -/
  | notInteger (text : String)
  /-- A text that writes no decimal number. -/
  | notDecimal (text : String)
  /-- An integer with more digits than are read. -/
  | tooManyDigits (count : Nat)
  /-- An integer with more digits than are written. -/
  | unwritable
  /-- An identifier that nothing goes by. -/
  | unknownId (id : String)
  /-- A path that the file system does not take. -/
  | longPath
  /-- Reads that call for further reads without end. -/
  | endlessReads
  deriving Inhabited

namespace Fault

/-- The kind of a fault. -/
def kind : Fault → FaultKind
  | .raised k _ => k
  | .malformed _ | .unusableCacheName _ | .pattern _ => .malformedName
  | .alreadyRegistered _ => .alreadyRegistered
  | .notRegistered _ => .notRegistered
  | .noSuchAttribute .. => .noSuchAttribute
  | .attributeFailed .. => .beanOperation
  | .queryFailed .. | .readFailed .. | .notCount .. => .statisticsRead
  | .rejected _ => .validation
  | .environment _ | .settingsFile _ | .unreadableFile .. => .settings
  | .unencodable => .unencodable
  | .directory _ => .directory
  | .document f => f.kind
  | .unhashable _ | .structural _ => .type
  | .absentAttribute _ | .labelNotText .. | .readOnly _ => .member
  | .tooLarge _ => .overflow
  | .takenSeries _ => .takenSeries
  | .notInteger _ | .notDecimal _ | .tooManyDigits _ | .unwritable => .value
  | .unknownId _ => .key
  | .longPath => .system
  | .endlessReads => .recursion

/-- A fault that handlers of errors catch: all but an interruption. -/
def isError (f : Fault) : Bool := f.kind.isError

/-- The fault that a fault was raised from. -/
def cause? : Fault → Option Fault
  | .unusableCacheName u => some (.malformed u.fault)
  | .noSuchAttribute _ _ cause => cause
  | .attributeFailed _ _ _ cause | .queryFailed _ _ cause | .readFailed _ _ _ cause => some cause
  | .environment rejections => some (.rejected rejections)
  | .unreadableFile _ cause => some cause
  | _ => none

/-- The wording of a fault. Foreign code that misses a key words it by the quoted key. -/
def message : Fault → String
  | .raised .key text => Text.quoted text
  | .raised _ text => text
  | .malformed fault => fault.message
  | .unusableCacheName u => u.message
  | .pattern name => "不能以通配模式注册统计对象: " ++ name.canonical
  | .alreadyRegistered name => "对象名已注册: " ++ name.canonical
  | .notRegistered name => "对象名未注册: " ++ name.canonical
  | .noSuchAttribute name attr _ => name.canonical ++ " 没有属性 " ++ attr
  | .attributeFailed name attr said _ | .readFailed name attr said _ =>
    "读取 " ++ name.canonical ++ " 的属性 " ++ attr ++ " 失败: " ++ said
  | .queryFailed name said _ => "查询 " ++ name.canonical ++ " 是否注册失败: " ++ said
  | .notCount name attr shown =>
    name.canonical ++ " 的属性 " ++ attr ++ " 不是整数: " ++ shown
  | .rejected rejections => rejections.headline
  | .readOnly name => "property '" ++ name ++ "' of 'ExporterConfig' object has no setter"
  | .structural name => name ++ " must be set to a class"
  | .environment rejections => "环境变量配置不合法: " ++ Rejections.headline rejections
  | .unencodable => "surrogates not allowed"
  | .settingsFile fault => fault.message
  | .unreadableFile path _ => "读取配置文件失败: " ++ path
  | .directory path => "[Errno 21] Is a directory: " ++ Text.quoted path
  | .document _ => ""
  | .unhashable sort => "unhashable type: '" ++ sort ++ "'"
  | .absentAttribute attr => attr
  | .labelNotText sort family =>
    "(" ++ Text.quoted ("'" ++ sort ++ "' object has no attribute 'replace'") ++ ", " ++
      family.getD "" ++ ")"
  | .tooLarge family => "('int too large to convert to float', " ++ family.getD "" ++ ")"
  | .takenSeries names =>
    "Duplicated timeseries in CollectorRegistry: \x7b" ++
      ", ".intercalate (names.map Text.quoted) ++ "\x7d"
  | .notInteger text =>
    "invalid literal for int() with base 10: " ++ ((Text.quoted text).take 200).toString
  | .notDecimal text => "could not convert string to float: " ++ Text.quoted text
  | .tooManyDigits count =>
    "Exceeds the limit (4300 digits) for integer string conversion: value has " ++
      toString count ++ " digits; use sys.set_int_max_str_digits() to increase the limit"
  | .unwritable =>
    "Exceeds the limit (4300 digits) for integer string conversion; " ++
      "use sys.set_int_max_str_digits() to increase the limit"
  | .unknownId id => Text.quoted id
  | .longPath => "File name too long"
  | .endlessReads => "maximum recursion depth exceeded"

/-- The message of a fault, if it can be written: that of a fault which shows a family cannot where
the family cannot. -/
def written : Fault → Except Fault String
  | .labelNotText _ none | .tooLarge none => .error .unwritable
  | f => .ok f.message

/-- The fault of an assignment to a name. -/
def ofAssignment (name : String) : AssignmentFault → Fault
  | .rejected why => .rejected [(name, why)]
  | .readOnly => .readOnly name
  | .structural => .structural name

/-- Faults whose wording is part of what a caller may rely on: the library's own, those that foreign
code raised with a text, and reports on rejected fields. -/
def hasWording : Fault → Bool
  | .raised .. | .rejected _ => true
  | f => f.kind.isOwn

/-- Raised by foreign code, whatever its kind, or of a kind that is not the library's own. -/
def isForeign : Fault → Bool
  | .raised .. => true
  | f => !f.kind.isOwn

/-- The chain of faults that a fault was raised from, nearest first. -/
def causes : Fault → List Fault
  | .unusableCacheName u => [.malformed u.fault]
  | .noSuchAttribute _ _ (some cause) => cause :: cause.causes
  | .attributeFailed _ _ _ cause | .queryFailed _ _ cause | .readFailed _ _ _ cause
  | .unreadableFile _ cause => cause :: cause.causes
  | .environment rejections => [.rejected rejections]
  | _ => []

/-- The chain starts with the fault's own cause and goes on with the causes of that. -/
theorem causes_eq (f : Fault) :
    f.causes = match f.cause? with
      | none => []
      | some c => c :: c.causes := by
  cases f with
  | noSuchAttribute _ _ cause => cases cause <;> simp [causes, cause?]
  | _ => simp [causes, cause?]

end Fault

end CacheTelemetry
