import CacheTelemetry.Fault.Basic
import CacheTelemetry.ObjectName.Parse
import CacheTelemetry.OrderedMap

/-!
# Management registries

A management registry holds beans under object names. No two beans share a name, and no name is a
pattern: `Registry.register` refuses both, and a refused call changes nothing. A name may be given
as such or in text; a text stands for the name that it is parsed to.
-/

namespace CacheTelemetry

/-- Beans of type `β` under object names. -/
abbrev Registry (β : Type) := OrderedMap ObjectName β

/-- A name given to a registry. -/
inductive NameArgument where
  | name (n : ObjectName)
  | text (s : String)

/-- The object name that is meant. -/
def NameArgument.resolve : NameArgument → Except Fault ObjectName
  | .name n => .ok n
  | .text s => (ObjectName.parse s).mapError .malformed

namespace Registry

variable {β : Type}

/-- Puts a bean under a name that is neither a pattern nor taken. -/
def register (r : Registry β) (n : ObjectName) (bean : β) : Except Fault (Registry β) :=
  if n.isPattern then .error (.pattern n)
  else if r.contains n then .error (.alreadyRegistered n)
  else .ok (r.insert n bean)

/-- Takes the bean from a name. -/
def unregister (r : Registry β) (n : ObjectName) : Except Fault (β × Registry β) :=
  match r.get? n with
  | none => .error (.notRegistered n)
  | some bean => .ok (bean, r.erase n)

/-- A bean is registered under a name; never under a pattern. -/
def isRegistered (r : Registry β) (n : ObjectName) : Bool := !n.isPattern && r.contains n

/-- The registered names, all of them or those of one domain. -/
def names (r : Registry β) (domain : Option String) : List ObjectName :=
  match domain with
  | none => r.keys
  | some d => r.keys.filter fun n => n.domain == d

/-- The registry in text. -/
def text (r : Registry β) : String :=
  "PlatformManagementRegistry(beans=" ++ toString r.size ++ ")"

end Registry

end CacheTelemetry
