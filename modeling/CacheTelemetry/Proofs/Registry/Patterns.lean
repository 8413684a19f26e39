import CacheTelemetry.Proofs.Registry.Contract
import CacheTelemetry.Proofs.Registry.FiniteMap

/-!
# Patterns in registries

Of the four things that can be done with a name in a registry, two look at wildcards: a bean is not
registered under a pattern, and a pattern is never answered as registered. Unregistering and reading
attributes take a pattern like every other name. That they find nothing is not said by their
definitions but by the history of the registry: **a registry that came about by requests bars every
pattern** (`IsRequested.bars`), whatever the requests were and however the pattern is spelled.

So in such a registry the test for wildcards decides nothing. The answer whether a name is
registered is the plain look for the key (`IsRequested.isRegistered_iff_mem_keys`), and it agrees
with what reading attributes finds (`IsRequested.isRegistered_iff_finds`).
-/

namespace CacheTelemetry

open Effect

namespace Registry

variable {β : Type} {r : Registry β} {n p : ObjectName} {bean : β}

/-- The registry came about by requests, granted or refused, from one without beans. -/
def IsRequested (r : Registry β) : Prop := ∃ requests : List (Request β), serveAll ∅ requests = r

/-- The name that a request is about. -/
def Request.name : Request β → NameArgument
  | .register name _ | .unregister name => name

/-- The registry knows nothing of a name: there is no bean under it; a request about it is refused,
whatever it is spelled like, and changes nothing; it is not answered as registered; and reading an
attribute fails before any bean is asked. -/
structure Bars (r : Registry β) (p : ObjectName) : Prop where
  not_mem_keys : p ∉ r.keys
  register : ∀ {name : NameArgument}, name.resolve = .ok p → ∀ bean,
    (Request.register name bean).perform r = .error (.pattern p) ∧
      (Fault.pattern p).kind = .malformedName
  withdraw : ∀ {name : NameArgument}, name.resolve = .ok p →
    r.withdraw name = .error (.notRegistered p) ∧ (Fault.notRegistered p).kind = .notRegistered
  serve : ∀ {request : Request β}, request.name.resolve = .ok p → r.serve request = r
  isRegistered : r.isRegistered p = false
  readAttribute : ∀ {σ κ : Type} (view : β → BeanView σ κ) (call : κ → Effect σ (Value κ))
    (word : Wording σ κ) (attr : String) (s : σ),
    (r.readAttribute view call word p attr).runFrom s = (.error (.notRegistered p), s)

/-- Reading attributes under the name finds the bean: what is read is what the bean says, in
whatever way beans are read. -/
def Finds (r : Registry β) (n : ObjectName) (bean : β) : Prop :=
  ∀ {σ κ : Type} (view : β → BeanView σ κ) (call : κ → Effect σ (Value κ)) (word : Wording σ κ)
    (attr : String), r.readAttribute view call word n attr = (view bean).read call word n attr

/-- Reading attributes finds a bean exactly under the names that hold one. -/
theorem exists_finds_iff : (∃ bean, r.Finds n bean) ↔ (r.get? n).isSome = true := by
  constructor
  · rintro ⟨bean, finds⟩
    by_contra absent
    have none : r.get? n = none := Option.not_isSome_iff_eq_none.1 absent
    -- a bean that gives null for all attributes would have been heard
    have failed : (r.readAttribute
        (fun _ : β => (.object fun _ => pure .null : BeanView Unit Empty))
        (fun callable => callable.elim) (fun w => pure w.text) n "").runFrom () =
          (.error (.notRegistered n), ()) :=
      runFrom_readAttribute_of_none none
    rw [finds] at failed
    cases failed
  · intro held
    obtain ⟨bean, found⟩ := Option.isSome_iff_exists.1 held
    exact ⟨bean, fun _ _ _ _ => readAttribute_of_some found⟩

namespace IsRequested

variable (h : r.IsRequested)

include h

/-- Further requests may be made. -/
theorem serveAll (requests : List (Request β)) : (r.serveAll requests).IsRequested := by
  obtain ⟨before, rfl⟩ := h
  exact ⟨before ++ requests, serveAll_append ∅ before requests⟩

/-- No bean is held under a pattern. -/
theorem get?_of_isPattern (pattern : p.isPattern = true) : r.get? p = none := by
  obtain ⟨requests, rfl⟩ := h
  exact get?_serveAll_of_isPattern (fun _ _ => rfl) requests p pattern

/-- A name is registered exactly if it is one of the keys. -/
theorem isRegistered_iff_mem_keys : r.isRegistered n = true ↔ n ∈ r.keys := by
  have shows : r.Shows r.get? := shows_get? fun _ pattern => h.get?_of_isPattern pattern
  rw [shows.isRegistered_iff, OrderedMap.mem_keys_iff]

/-- A name is registered exactly if reading attributes finds a bean under it. -/
theorem isRegistered_iff_finds : r.isRegistered n = true ↔ ∃ bean, r.Finds n bean := by
  rw [h.isRegistered_iff_mem_keys, OrderedMap.mem_keys_iff, exists_finds_iff]

/-- Patterns are barred. -/
theorem bars (pattern : p.isPattern = true) : r.Bars p := by
  have absent : r.get? p = none := h.get?_of_isPattern pattern
  have refused : ∀ {name : NameArgument}, name.resolve = .ok p → ∀ bean,
      (Request.register name bean).perform r = .error (.pattern p) := fun named bean =>
    perform_register_eq_error_iff.2 (.inr ⟨p, named, .inl ⟨pattern, rfl⟩⟩)
  have withdrawn : ∀ {name : NameArgument}, name.resolve = .ok p →
      r.withdraw name = .error (.notRegistered p) := fun named =>
    withdraw_eq_error_iff.2 (.inr ⟨p, named, absent, rfl⟩)
  have unregistered : r.isRegistered p = false := by
    rw [Registry.isRegistered, pattern]
    rfl
  refine ⟨?_, fun named bean => ⟨refused named bean, rfl⟩, fun named => ⟨withdrawn named, rfl⟩,
    fun {request} named => ?_, unregistered, fun _ _ _ _ _ => runFrom_readAttribute_of_none absent⟩
  · rw [← h.isRegistered_iff_mem_keys, unregistered]
    exact Bool.false_ne_true
  · cases request with
    | register name bean => exact serve_of_error (refused named bean)
    | unregister name =>
      have gone : r.withdraw name = .error (.notRegistered p) := withdrawn named
      have failed : (Request.unregister name).perform r = .error (.notRegistered p) := by
        rw [perform_unregister, gone]
        rfl
      exact serve_of_error failed

end IsRequested

end Registry

end CacheTelemetry
