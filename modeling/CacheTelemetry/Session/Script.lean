import CacheTelemetry.Document.Basic
import CacheTelemetry.Effect

/-!
# Scripts

A session is played by a list of steps on collectors, registries and the objects around them. The
objects that a session supplies itself, beans and caches, answer by *scripts*: a script is evaluated
each time it is asked for, and may then raise a fault, give a callable, or perform a step of the
session before it answers.

A counter gives one number more with each call. Its cell counts the calls, whichever evaluation of
the script the called counter came from.
-/

namespace CacheTelemetry.Session

/-- The registries that a step may mean. -/
inductive RegistryRef where
  /-- A registry of the session, by its identifier. -/
  | named (id : String)
  /-- The registry of the process. -/
  | platform
  deriving DecidableEq, Repr, Inhabited

/-- The registry that the first collector of a session reads. -/
@[match_pattern]
def RegistryRef.main : RegistryRef := .named "main"

/-- The sorts of beans. -/
inductive BeanSort where
  /-- A mapping whose values are evaluated when they are set. -/
  | stored
  /-- A mapping whose values are evaluated when they are accessed. -/
  | lazy
  /-- An object whose members are evaluated when they are read. -/
  | object
  deriving DecidableEq, Repr, Inhabited

/-- Where the settings of a new collector come from. -/
inductive SettingsSource where
  | standard
  | table (entries : Document.Table)
  | sharedWith (collector : String)

mutual

/-- What is evaluated to a value. -/
inductive Script where
  | null
  | bool (b : Bool)
  | int (i : Int)
  | float (x : Binary64)
  | text (s : String)
  /-- The integer that a text writes. -/
  | integer (written : String)
  /-- The double that a text writes. -/
  | decimal (written : String)
  | list (items : List Script)
  | dict (entries : List (Script × Script))
  /-- Raises a fault. -/
  | raise (kind : FaultKind) (text : String)
  /-- A callable; each call evaluates the body. -/
  | call (body : Script)
  /-- A callable that counts its calls, from `start` on. -/
  | counter (cell : Nat) (start : Int)
  /-- Performs a step, then goes on. -/
  | perform (step : Step) (next : Script)

/-- What is evaluated to an object name. -/
inductive NameScript where
  /-- A text that is to be parsed. -/
  | text (s : String)
  /-- A domain and properties. `merged` properties go through a table first, in which a repeated
  key keeps its first place and its last value. -/
  | properties (domain : String) (entries : List (Script × Script)) (merged : Bool)

/-- The steps of a session. -/
inductive Step where
  | newBean (id : String) (sort : BeanSort) (attrs : List (String × Script))
  | setAttr (bean attr : String) (value : Script)
  | dropAttr (bean attr : String)
  | newCache (id : String) (name uri : Script)
  | setCache (id : String) (name uri : Option Script)
  | newCollector (id : String) (registry : RegistryRef) (settings : SettingsSource)
  | registerBean (registry : RegistryRef) (name : NameScript) (bean : String)
  | unregisterBean (registry : RegistryRef) (name : NameScript)
  | isRegistered (registry : RegistryRef) (name : NameScript)
  | readAttr (registry : RegistryRef) (name : NameScript) (attr : String)
  | names (registry : RegistryRef) (domain : Option String)
  | registrySize (registry : RegistryRef)
  | registryText (registry : RegistryRef)
  | addCache (collector cache : String)
  | removeCache (collector : String) (name : Option String)
  | clear (collector : String)
  | size (collector : String)
  | text (collector : String)
  | contains (collector : String) (name : Script)
  | collect (collector : String)
  | describe (collector : String)
  | register (collector metrics : String)
  | expose (metrics : String)
  | sampleValue (metrics metric label : String)
  | settings (collector : String)
  | assign (collector field : String) (value : Document.Value)
  | registered

end

instance : Inhabited Script := ⟨.null⟩

instance : Inhabited NameScript := ⟨.text ""⟩

instance : Inhabited Step := ⟨.registered⟩

/-- What a script gives to be called. -/
inductive Callable where
  | thunk (body : Script)
  | counter (cell : Nat) (start : Int)

/-- Each evaluation gives a new callable, which is equal to no other. -/
instance : BEq Callable := ⟨fun _ _ => false⟩

mutual

/-- A script without effects: it performs no step and counts nothing. -/
def Script.isQuiet : Script → Bool
  | .list items => quietItems items
  | .dict entries => quietEntries entries
  | .call body => body.isQuiet
  | .counter _ _ | .perform _ _ => false
  | _ => true

/-- Every item is without effects. -/
def quietItems : List Script → Bool
  | [] => true
  | s :: rest => s.isQuiet && quietItems rest

/-- Every key and value is without effects. -/
def quietEntries : List (Script × Script) → Bool
  | [] => true
  | (k, v) :: rest => k.isQuiet && v.isQuiet && quietEntries rest

end

end CacheTelemetry.Session
