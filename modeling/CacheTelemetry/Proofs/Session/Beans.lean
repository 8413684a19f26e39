import CacheTelemetry.Proofs.Effect
import CacheTelemetry.Proofs.OrderedMap
import CacheTelemetry.Proofs.Registry.History
import CacheTelemetry.Session.Execute

/-!
# Beans in a session

A step of a session that registers or unregisters a bean evaluates its name first, and evaluating a
name may perform other steps. **From there on the step is one request to one registry**
(`serves_registerBean`, `serves_unregisterBean`): the registry serves it, all other registries stay
as they are, and the step succeeds exactly if the request is granted. So a step that fails leaves
the registries as they were when its name had been evaluated.
-/

namespace CacheTelemetry.Session

open Effect Registry

variable {perform : Performer} {ref ref' : RegistryRef} {name : NameScript} {bean : String}
  {argument : NameArgument} {p : Place} {r : Registry Place} {w w₁ : World} {f : Fault}
  {request : Request Place}

@[simp] theorem World.registry_log (record : LogRecord) (w : World) (ref : RegistryRef) :
    (w.log record).registry ref = w.registry ref := by
  cases ref <;> rfl

@[simp] theorem World.registry_setRegistry (w : World) (ref : RegistryRef) (r : Registry Place) :
    (w.setRegistry ref r).registry ref = r := by
  cases ref with
  | named id =>
    rw [World.setRegistry, World.registry, OrderedMap.get?_insert_self _ (by simp),
      Option.getD_some]
  | platform => rfl

theorem World.registry_setRegistry_of_ne (w : World) (h : ref' ≠ ref) (r : Registry Place) :
    (w.setRegistry ref r).registry ref' = w.registry ref' := by
  cases ref with
  | named id =>
    cases ref' with
    | named id' =>
      have other : id' ≠ id := fun same => h (congrArg RegistryRef.named same)
      rw [World.setRegistry, World.registry, World.registry, OrderedMap.get?_insert_of_ne _ other]
    | platform => rfl
  | platform =>
    cases ref' with
    | named id' => rfl
    | platform => exact absurd rfl h

/-- A run of a step is what comes of a request to one of the registries of a world. -/
structure Serves (ref : RegistryRef) (request : Request Place) (w : World)
    (run : Except Fault Answer × World) : Prop where
  isOk_iff : run.1.isOk = true ↔ ∃ r, request.perform (w.registry ref) = .ok r
  registry_eq : run.2.registry ref = (w.registry ref).serve request
  registry_of_ne : ∀ ref', ref' ≠ ref → run.2.registry ref' = w.registry ref'
  metrics : run.2.metrics = w.metrics
  shared : run.2.shared = w.shared
  collectors : run.2.collectors = w.collectors

theorem Serves.granted (h : request.perform (w.registry ref) = .ok r) (answer : Answer)
    (record : LogRecord) :
    Serves ref request w (.ok answer, (w.setRegistry ref r).log record) where
  isOk_iff := iff_of_true rfl ⟨r, h⟩
  registry_eq := by
    rw [World.registry_log, World.registry_setRegistry, serve_of_ok h]
  registry_of_ne ref' other := by
    rw [World.registry_log, World.registry_setRegistry_of_ne w other]
  metrics := by cases ref <;> rfl
  shared := by cases ref <;> rfl
  collectors := by cases ref <;> rfl

theorem Serves.refused (h : request.perform (w.registry ref) = .error f) :
    Serves ref request w (.error f, w) where
  isOk_iff := by
    rw [h]
    refine iff_of_false Bool.false_ne_true ?_
    rintro ⟨r, ⟨⟩⟩
  registry_eq := (serve_of_error h).symm
  registry_of_ne _ _ := rfl
  metrics := rfl
  shared := rfl
  collectors := rfl

/-- A step that registers a bean is a request to register it. -/
theorem serves_registerBean (named : (nameArgument perform name).runFrom w = (.ok argument, w₁))
    (known : w₁.beanIds.get? bean = some p) :
    Serves ref (.register argument p) w₁ ((registerBean perform ref name bean).runFrom w) := by
  have found : lookUp w₁.beanIds bean = pure p := by
    rw [lookUp, known]
  rw [registerBean, runFrom_bind_of_ok named, runFrom_get_bind, found, pure_bind]
  rcases hname : argument.resolve with f | n
  · exact .refused (perform_register_eq_error_iff.2 (.inl hname))
  rw [ofExcept_ok_bind, runFrom_get_bind]
  have request : (Request.register argument p).perform (w₁.registry ref) =
      (w₁.registry ref).register n p := by
    rw [Request.perform, hname]
    rfl
  rcases hr : (w₁.registry ref).register n p with f | r
  · exact .refused (request.trans hr)
  · exact .granted (request.trans hr) _ _

/-- A step that unregisters a bean is a request to unregister it. -/
theorem serves_unregisterBean
    (named : (nameArgument perform name).runFrom w = (.ok argument, w₁)) :
    Serves ref (.unregister argument) w₁ ((unregisterBean perform ref name).runFrom w) := by
  have evaluated : (objectName perform name).runFrom w = (argument.resolve, w₁) := by
    rw [objectName, runFrom_bind_of_ok named]
    rfl
  have request : (Request.unregister argument).perform (w₁.registry ref) =
      (argument.resolve.bind (w₁.registry ref).unregister).map Prod.snd := perform_unregister _ _
  rcases hname : argument.resolve with f | n <;> rw [hname] at evaluated request
  · rw [unregisterBean, runFrom_bind_of_error evaluated]
    exact .refused request
  rw [unregisterBean, runFrom_bind_of_ok evaluated, runFrom_get_bind]
  rcases hr : (w₁.registry ref).unregister n with f | ⟨q, r⟩ <;>
    rw [Except.bind, hr] at request
  · exact .refused request
  · exact .granted request _ _

end CacheTelemetry.Session
