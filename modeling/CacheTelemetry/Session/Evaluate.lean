import CacheTelemetry.Decimal.Numeral
import CacheTelemetry.Session.World

/-!
# Evaluating scripts

The value of a script in a world. Scripts may perform steps; what performing a step means is a
parameter here, so that evaluation is by recursion on the script alone.
-/

namespace CacheTelemetry.Session

/-- What it means to perform a step whose answer is of no interest. -/
abbrev Performer := Step → Effect World Unit

/-- Calls a counter: its first number the first time, one more with each further call. -/
def tick (cell : Nat) (start : Int) : Effect World (Value Callable) := do
  let w ← get
  let n := (w.calls.get? cell).getD 0
  set { w with calls := w.calls.insert cell (n + 1) }
  return .int (start + n)

/-- Entries as those of a table: a repeated key keeps its first place and its last value. -/
def mergeEntries (entries : List (Value Callable × Value Callable)) :
    List (Value Callable × Value Callable) :=
  (OrderedMap.ofList entries).entries

/-- Entries as those of a table, unless a list or a table comes first in one of them. -/
def keyedEntries (entries : List (Value Callable × Value Callable)) :
    Except Fault (List (Value Callable × Value Callable)) :=
  match entries.find? (!·.1.isKey) with
  | some (key, _) => .error (.unhashable key.sort)
  | none => .ok (mergeEntries entries)

/-- The integer that a text writes. -/
def integerOf (s : String) : Except Fault Int :=
  match Numeral.integer? s with
  | none => .error (.notInteger s)
  | some (i, digits) =>
    if digits > Numeral.maxDigits then .error (.tooManyDigits digits) else .ok i

/-- The double that a text writes. -/
def decimalOf (s : String) : Except Fault Binary64 :=
  match Numeral.double? s with
  | none => .error (.notDecimal s)
  | some x => .ok x

mutual

/-- The value of a script. -/
def evaluate (perform : Performer) : Script → Effect World (Value Callable)
  | .null => return .null
  | .bool b => return .bool b
  | .int i => return .int i
  | .float x => return .float x
  | .text s => return .text s
  | .integer s => .int <$> Effect.ofExcept (integerOf s)
  | .decimal s => .float <$> Effect.ofExcept (decimalOf s)
  | .list items => do return .list (← evaluateItems perform items)
  | .dict entries => do return .dict (mergeEntries (← evaluateEntries perform true entries))
  | .raise kind text => throw (.raised kind text)
  | .call body => return .special (.thunk body)
  | .counter cell start => return .special (.counter cell start)
  | .perform step next => do
    perform step
    evaluate perform next

/-- The values of scripts, one after the other. -/
def evaluateItems (perform : Performer) : List Script → Effect World (List (Value Callable))
  | [] => return []
  | s :: rest => do
    let v ← evaluate perform s
    return v :: (← evaluateItems perform rest)

/-- The values of pairs of scripts, one after the other. If they are `keyed`, lists and tables
cannot come first in a pair. -/
def evaluateEntries (perform : Performer) (keyed : Bool) :
    List (Script × Script) → Effect World (List (Value Callable × Value Callable))
  | [] => return []
  | (k, v) :: rest => do
    let key ← evaluate perform k
    let value ← evaluate perform v
    if keyed && !key.isKey then throw (.unhashable key.sort)
    return (key, value) :: (← evaluateEntries perform keyed rest)

end

/-- The result of calling a callable. -/
def call (perform : Performer) : Callable → Effect World (Value Callable)
  | .thunk body => evaluate perform body
  | .counter cell start => tick cell start

/-- The name that a step gives to a registry. -/
def nameArgument (perform : Performer) : NameScript → Effect World NameArgument
  | .text s => return .text s
  | .properties domain entries merged => do
    let values ← evaluateEntries perform false entries
    let given ← if merged then Effect.ofExcept (keyedEntries values) else pure values
    let properties ← Effect.ofExcept (given.mapM fun (k, v) => do
      return (← k.written Value.plain, ← v.written Value.plain))
    match ObjectName.ofProperties domain properties with
    | .ok n => return .name n
    | .error fault => throw (.malformed fault)

/-- The object name that a step means. -/
def objectName (perform : Performer) (name : NameScript) : Effect World ObjectName := do
  Effect.ofExcept (← nameArgument perform name).resolve

end CacheTelemetry.Session
