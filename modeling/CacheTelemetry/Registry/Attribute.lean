import CacheTelemetry.Registry.Basic
import CacheTelemetry.Wording

/-!
# Reading attributes of beans

A bean is a mapping or an object. Reading an attribute of a mapping looks for the key and then
accesses the item; an error of the access is not handled. Reading a member of an object that says it
has no such member is a missing attribute, any other error of the object is a failed operation. A
value that is a callable is called once, and an error of the call is a failed operation as well.

A failed operation is reported with the message of the error. If the error cannot be put into words,
the failure of that is what the reader gets.
-/

namespace CacheTelemetry

/-- How a bean is read: by its keys and items, or by its members. -/
inductive BeanView (σ κ : Type) where
  | mapping (keys : List String) (item : String → Effect σ (Value κ))
  | object (member : String → Effect σ (Value κ))

namespace BeanView

variable {σ κ : Type}

/-- The fault of a bean that raised an error when it was read. -/
def operationFault (word : Wording σ κ) (n : ObjectName) (attr : String) (f : Fault) :
    Effect σ Fault := do
  return .attributeFailed n attr (← word.say (.error f)) f

/-- The fault of an object that raised an error when a member was read. -/
def memberFault (word : Wording σ κ) (n : ObjectName) (attr : String) (f : Fault) :
    Effect σ Fault :=
  if f.kind = .member then return .noSuchAttribute n attr (some f)
  else operationFault word n attr f

/-- The value that a bean keeps for an attribute; `n` is the name of the bean. -/
def fetch (view : BeanView σ κ) (word : Wording σ κ) (n : ObjectName) (attr : String) :
    Effect σ (Value κ) :=
  match view with
  | .mapping keys item =>
    if attr ∈ keys then item attr else throw (.noSuchAttribute n attr none)
  | .object member => (member attr).wrapErrors (memberFault word n attr)

/-- The value of an attribute: what the bean keeps, or the result of calling it. -/
def read (view : BeanView σ κ) (call : κ → Effect σ (Value κ)) (word : Wording σ κ)
    (n : ObjectName) (attr : String) : Effect σ (Value κ) := do
  match ← view.fetch word n attr with
  | .special callable => (call callable).wrapErrors (operationFault word n attr)
  | v => return v

end BeanView

namespace Registry

variable {σ κ β : Type}

/-- The value of an attribute of the bean under a name. -/
def readAttribute (r : Registry β) (view : β → BeanView σ κ) (call : κ → Effect σ (Value κ))
    (word : Wording σ κ) (n : ObjectName) (attr : String) : Effect σ (Value κ) :=
  match r.get? n with
  | none => throw (.notRegistered n)
  | some bean => (view bean).read call word n attr

end Registry

end CacheTelemetry
