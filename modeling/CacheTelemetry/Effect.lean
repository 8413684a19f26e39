import CacheTelemetry.Datum
import CacheTelemetry.Fault.Basic

/-!
# Effects

Computations on a state that may fail. What a computation changed before it failed stays changed, as
it does when foreign code is asked for a value and raises an error half-way. A *value* is a plain
value or a callable; the type of callables is a parameter.
-/

namespace CacheTelemetry

/-- A computation that changes a state `σ` and ends in a result or a fault. -/
abbrev Effect (σ α : Type) := ExceptT Fault (StateM σ) α

/-- Values as foreign code gives them, with callables of type `κ` as special leaves. -/
abbrev Value (κ : Type) := Datum κ

namespace Value

variable {κ : Type}

/-- The quoted form of a value; a callable has no better text than its sort. -/
def quoted (v : Value κ) : String := v.quotedWith fun _ => "<callable>"

/-- The plain form of a value. -/
def plain (v : Value κ) : String := v.plainWith fun _ => "<callable>"

/-- The word for the sort of a value. -/
def sort (v : Value κ) : String := v.sortWith fun _ => "function"

/-- The sanitized text of a value. -/
def sanitized (v : Value κ) : String := sanitize (fun _ => "<callable>") v

/-- A form of a value, if the value is writable. -/
def written (form : Value κ → String) (v : Value κ) : Except Fault String :=
  if v.isWritable then .ok (form v) else .error .unwritable

end Value

namespace Effect

variable {σ α : Type}

/-- The outcome of a computation from a state, and the state that it leaves. -/
def runFrom (x : Effect σ α) (s : σ) : Except Fault α × σ := StateT.run (ExceptT.run x) s

/-- A computation given by what it does to each state. -/
def ofFun (f : σ → Except Fault α × σ) : Effect σ α := ExceptT.mk fun s => f s

/-- A result that was computed without the state. -/
def ofExcept (x : Except Fault α) : Effect σ α := ExceptT.mk (pure x)

/-- Raises errors anew as `wrap` says, which may fail in turn; an interruption goes through. -/
def wrapErrors (wrap : Fault → Effect σ Fault) (x : Effect σ α) : Effect σ α :=
  tryCatch x fun f => if f.isError then do throw (← wrap f) else throw f

@[simp] theorem runFrom_ofFun (f : σ → Except Fault α × σ) (s : σ) :
    (ofFun f).runFrom s = f s := rfl

@[simp] theorem runFrom_ofExcept (x : Except Fault α) (s : σ) :
    (ofExcept x : Effect σ α).runFrom s = (x, s) := rfl

@[simp] theorem runFrom_pure (a : α) (s : σ) :
    (pure a : Effect σ α).runFrom s = (.ok a, s) := rfl

@[simp] theorem runFrom_throw (f : Fault) (s : σ) :
    (throw f : Effect σ α).runFrom s = (.error f, s) := rfl

/-- One computation after another: the second starts in the state that the first left, unless the
first failed. -/
theorem runFrom_bind {β : Type} (x : Effect σ α) (g : α → Effect σ β) (s : σ) :
    (x >>= g).runFrom s =
      match x.runFrom s with
      | (.ok a, s') => (g a).runFrom s'
      | (.error f, s') => (.error f, s') := by
  simp only [runFrom, bind, ExceptT.bind, ExceptT.run, ExceptT.mk, StateT.run, StateT.bind]
  generalize x s = r
  obtain ⟨r | r, s'⟩ := r <;> rfl

/-- Handling a fault: the handler starts in the state that the failed computation left. -/
theorem runFrom_tryCatch (x : Effect σ α) (h : Fault → Effect σ α) (s : σ) :
    (tryCatch x h).runFrom s =
      match x.runFrom s with
      | (.ok a, s') => (.ok a, s')
      | (.error f, s') => (h f).runFrom s' := by
  simp only [runFrom, tryCatch, tryCatchThe, MonadExceptOf.tryCatch, ExceptT.tryCatch, ExceptT.run,
    ExceptT.mk, StateT.run, bind, StateT.bind]
  generalize x s = r
  obtain ⟨r | r, s'⟩ := r <;> rfl

end Effect

end CacheTelemetry
