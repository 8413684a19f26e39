import CacheTelemetry.Document.Leaf
import CacheTelemetry.Fault.Basic

/-!
# Settings from the environment

Each setting may come from an environment variable, named by a common lead and the name of the field
in upper case. A variable that is not set leaves the default. The words *true*, *yes*, *on* and
their opposites, in any case, stand for truth values; every other text of a flag goes to the check
of the field as it is.

The variables of a process are known by the octets of their names. A lead with a surrogate may have
no octets, and then the variables cannot even be looked up. The text of a variable may hold unpaired
surrogates too, and is then no Unicode text.
-/

namespace CacheTelemetry

/-- The variables of a process: the octets of their names, and the code points of their texts. -/
abbrev Environment := OrderedMap (List UInt8) (List Nat)

namespace Settings

/-- The lead of the variables where no other is given. -/
def standardLead : List Nat := Text.codePoints "CACHE_EXPORTER_"

/-- The name of the variable for a field. -/
def variableName (lead : List Nat) (f : Field) : List Nat :=
  lead ++ Text.codePoints (f.name.map Char.toUpper)

/-- The text of a flag as a value: a truth value for the known words, else the text itself. -/
def flagOrText (raw : String) : Document.Value :=
  let w := Text.lower raw
  if w ∈ ["true", "yes", "on"] then .bool true
  else if w ∈ ["false", "no", "off"] then .bool false
  else .text raw

/-- The value that the text of a variable gives to a field. -/
def variableValue (f : Field) (raw : Document.Value) : Document.Value :=
  match f, raw with
  | .isolateFailures, .text s => flagOrText s
  | _, _ => raw

/-- The text of a variable, if the variable is set. -/
def lookUp (env : Environment) (name : List Nat) : Except Fault (Option Document.Value) :=
  match Text.encode? name with
  | some octets => .ok ((env.get? octets).map Document.ofCodePoints)
  | none => .error .unencodable

/-- The table of the fields whose variables are set. -/
def environmentTable (env : Environment) (lead : List Nat) : Except Fault Document.Table := do
  let entries ← Field.all.mapM fun f => do
    let raw ← lookUp env (variableName lead f)
    return raw.map fun raw => (f.name, variableValue f raw)
  return .ofList (entries.filterMap id)

/-- The settings given by the environment. -/
def ofEnvironment (env : Environment) (lead : List Nat) : Except Fault Settings := do
  (ofTable (← environmentTable env lead)).mapError .environment

end Settings

end CacheTelemetry
