import CacheTelemetry.Proofs.Session.Beans
import CacheTelemetry.Proofs.Session.Keeping

/-!
# Turns of a world

What may happen to the registries and to the collector of the process, one *turn* after the other: a
collector is registered, a collector for the process is made and registered, or something is done
that is neither, in which management registries serve requests at most. Scripts perform steps in
steps to any depth, but **whatever a step does is a sequence of turns**: a property of worlds that
turns keep is kept by every step, and by every run (`keeps_perform`, `worldAfter_of_turnsKeep`).

The properties of registries and of the collector of the process that hold in every run are derived
from this, with one case for each turn.
-/

namespace CacheTelemetry.Session

open Effect

/-- One thing that happens to the registries and the collector of the process. -/
inductive World.Turn (w : World) : World → Prop where
  /-- Neither metrics registries nor the collector of the process are touched. Collectors may be
  added, and those that are there keep the registries that they read. Management registries may
  serve requests. -/
  | aside {v : World} (metrics : v.metrics = w.metrics) (shared : v.shared = w.shared)
    (registries : w.collectors.map CollectorState.registry <+:
      v.collectors.map CollectorState.registry)
    (served : ∀ ref, ∃ requests, v.registry ref = (w.registry ref).serveAll requests) : Turn w v
  /-- A collector is registered. -/
  | register {id : String} {p : Place} {r : MetricsRegistry Place}
    (granted : (w.metricsRegistry id).register p (Collector.describe : List (Family Callable)) =
      .ok r) :
    Turn w { w with metrics := w.metrics.insert id r }
  /-- A collector for the process is made and registered where there was none. -/
  | share {r : MetricsRegistry Place} (unshared : w.shared = none)
    (granted : (w.metricsRegistry defaultMetrics).register w.collectors.length
      (Collector.describe : List (Family Callable)) = .ok r) : Turn w (w.share r)

/-- Turns keep a property of worlds. -/
def TurnsKeep (P : World → Prop) : Prop := ∀ {w v}, P w → w.Turn v → P v

/-- What leaves the collectors and the management registries alone as well is a turn aside. -/
theorem World.Turn.of_collectors {w v : World} (metrics : v.metrics = w.metrics)
    (shared : v.shared = w.shared) (collectors : v.collectors = w.collectors)
    (registry : ∀ ref, v.registry ref = w.registry ref) : w.Turn v :=
  .aside metrics shared (by simp only [collectors, List.prefix_rfl]) fun ref => ⟨[], registry ref⟩

/-- What comes of a request to a management registry is a turn aside. -/
theorem Serves.turn {ref : RegistryRef} {request : Registry.Request Place} {w : World}
    {run : Except Fault Answer × World} (serves : Serves ref request w run) : w.Turn run.2 := by
  refine .aside serves.metrics serves.shared ?_ fun ref' => ?_
  · simp only [serves.collectors, List.prefix_rfl]
  · by_cases same : ref' = ref
    · subst same
      exact ⟨[request], serves.registry_eq⟩
    · exact ⟨[], serves.registry_of_ne ref' same⟩

/-- Another roster for a collector is a turn aside. -/
theorem World.Turn.setRoster (w : World) (p : Place) (roster : Roster Callable Place) :
    w.Turn (w.modifyCollector p fun c => { c with roster := roster }) := by
  have same : (w.collectors.modify p fun c => { c with roster := roster }).map
      CollectorState.registry = w.collectors.map CollectorState.registry := by
    refine List.ext_getElem? fun i => ?_
    rw [List.getElem?_map, List.getElem?_map, List.getElem?_modify]
    cases w.collectors[i]? with
    | none => rfl
    | some c => by_cases h : p = i <;> simp [h]
  exact .aside rfl rfl (by rw [← same]; exact List.prefix_rfl) fun ref => ⟨[], rfl⟩

/-- A collector that reads the registry of the process goes on to do so. -/
theorem turnsKeep_platform (p : Place) :
    TurnsKeep fun w => (w.collectors.map CollectorState.registry)[p]? = some .platform := by
  intro w v platform turn
  have held : p < (w.collectors.map CollectorState.registry).length :=
    (List.getElem?_eq_some_iff.1 platform).1
  cases turn with
  | aside _ _ registries _ =>
    obtain ⟨added, registries⟩ := registries
    rw [← registries, List.getElem?_append_left held, platform]
  | register granted => exact platform
  | @share r unshared granted =>
    have added : (w.share r).collectors.map CollectorState.registry =
        w.collectors.map CollectorState.registry ++ [.platform] := List.map_append
    rw [added, List.getElem?_append_left held, platform]

variable {perform : Performer} {P : World → Prop}

section

variable (closed : TurnsKeep P)

include closed

/-- A change of the world that touches neither registries nor collectors. -/
theorem TurnsKeep.modify {f : World → World}
    (h : ∀ w, (f w).metrics = w.metrics ∧ (f w).shared = w.shared ∧
      (f w).collectors = w.collectors ∧ ∀ ref, (f w).registry ref = w.registry ref := by
        exact fun _ => ⟨rfl, rfl, rfl, fun _ => rfl⟩) :
    Keeps P (modify f : Effect World Unit) :=
  .modify fun w hw => closed hw (.of_collectors (h w).1 (h w).2.1 (h w).2.2.1 (h w).2.2.2)

theorem TurnsKeep.log (record : LogRecord) (w : World) (h : P w) : P (w.log record) :=
  closed h (.of_collectors rfl rfl rfl fun _ => rfl)

/-! ### Scripts -/

theorem keeps_tick (cell : Nat) (start : Int) : Keeps P (tick cell start) := by
  intro w h
  exact closed h (.of_collectors rfl rfl rfl fun _ => rfl)

end

mutual

/-- The value of a script keeps what the steps in it keep. -/
theorem keeps_evaluate (performs : ∀ step, Keeps P (perform step)) :
    ∀ s : Script, Keeps P (evaluate perform s)
  | .null | .bool _ | .int _ | .float _ | .text _ | .call _ | .counter _ _ => .pure _
  | .integer _ | .decimal _ => (Keeps.ofExcept _).map
  | .raise _ _ => .throw _
  | .list items => (keeps_evaluateItems performs items).bind fun _ => .pure _
  | .dict entries => (keeps_evaluateEntries performs true entries).bind fun _ => .pure _
  | .perform step next => (performs step).bind fun _ => keeps_evaluate performs next

/-- So do the values of scripts one after the other. -/
theorem keeps_evaluateItems (performs : ∀ step, Keeps P (perform step)) :
    ∀ items : List Script, Keeps P (evaluateItems perform items)
  | [] => .pure _
  | s :: rest => (keeps_evaluate performs s).bind fun _ =>
    (keeps_evaluateItems performs rest).bind fun _ => .pure _

/-- So do the values of pairs of scripts. -/
theorem keeps_evaluateEntries (performs : ∀ step, Keeps P (perform step)) (keyed : Bool) :
    ∀ entries : List (Script × Script), Keeps P (evaluateEntries perform keyed entries)
  | [] => .pure _
  | (k, v) :: rest => by
    refine (keeps_evaluate performs k).bind fun key => (keeps_evaluate performs v).bind fun _ => ?_
    dsimp only
    split
    · exact .throw_bind _ _
    · exact (keeps_evaluateEntries performs keyed rest).bind fun _ => .pure _

end

/-- An error of a bean is raised anew without effects. -/
theorem keeps_operationFault (n : ObjectName) (attr : String) (f : Fault) :
    Keeps P (BeanView.operationFault wording n attr f) :=
  (Wording.keeps_say keeps_wording _).bind fun _ => .pure _

section

variable (closed : TurnsKeep P) (performs : ∀ step, Keeps P (perform step))

include performs

theorem keeps_nameArgument (name : NameScript) : Keeps P (nameArgument perform name) := by
  cases name with
  | text s => exact .pure _
  | properties domain entries merged =>
    refine (keeps_evaluateEntries performs false entries).bind fun values => ?_
    extract_lets made
    have named : ∀ given, Keeps P (made given) := by
      intro given
      refine (Keeps.ofExcept _).bind fun properties => ?_
      split
      · exact .pure _
      · exact .throw _
    split
    · exact (Keeps.ofExcept _).bind named
    · exact (Keeps.pure values).bind named

theorem keeps_ofScript (sort : BeanSort) (s : Script) :
    Keeps P (BeanMember.ofScript perform sort s) := by
  cases sort with
  | stored => exact (keeps_evaluate performs s).map
  | lazy | object => exact .pure _

/-- The scripts that are given with a step keep what the steps in them keep. -/
theorem argumentsKeep_of_performs (step : Step) : step.ArgumentsKeep perform P := by
  cases step with
  | newBean id sort attrs => exact fun attr _ => keeps_ofScript performs sort attr.2
  | setAttr bean attr value => exact fun sort => keeps_ofScript performs sort value
  | registerBean _ name _ | unregisterBean _ name | isRegistered _ name | readAttr _ name _ =>
    exact keeps_nameArgument performs name
  | contains id name => exact keeps_evaluate performs name
  | _ => trivial

theorem keeps_readMember (absent : String → Fault) (b : Bean) (attr : String) :
    Keeps P (readMember perform absent b attr) := by
  rw [readMember]
  split
  · exact .pure _
  · exact keeps_evaluate performs _
  · exact .throw _

theorem keeps_fetch (w : World) (p : Place) (n : ObjectName) (attr : String) :
    Keeps P ((beanView perform w p).fetch wording n attr) := by
  rw [beanView]
  split
  · rw [BeanView.fetch]
    split <;> exact .throw _
  · split
    · rw [BeanView.fetch]
      split
      · exact keeps_readMember performs _ _ _
      · exact .throw _
    · rw [BeanView.fetch]
      split
      · exact keeps_readMember performs _ _ _
      · exact .throw _
    · refine (keeps_readMember performs _ _ _).wrapErrors fun f => ?_
      rw [BeanView.memberFault]
      split
      · exact .pure _
      · exact keeps_operationFault n attr f

theorem keeps_readCache (part : Cache → Script) (x : Place) :
    Keeps P (readCache perform part x) := by
  refine .get_bind fun w _ => ?_
  split
  · exact keeps_evaluate performs _
  · exact .pure _

theorem keeps_askRegistered (ref : RegistryRef) (n : ObjectName) :
    Keeps P (askRegistered perform ref n) := by
  refine .get_bind fun w _ => ?_
  split
  · exact keeps_evaluate performs _
  · exact .pure _

include closed

theorem keeps_call (callable : Callable) : Keeps P (call perform callable) := by
  cases callable with
  | thunk body => exact keeps_evaluate performs body
  | counter cell start => exact keeps_tick closed cell start

theorem keeps_askAttribute (ref : RegistryRef) (n : ObjectName) (attr : String) :
    Keeps P (askAttribute perform ref n attr) := by
  refine .get_bind fun w _ => ?_
  split
  · exact keeps_evaluate performs _
  · rw [Registry.readAttribute]
    split
    · exact .throw _
    · refine (keeps_fetch performs w _ n attr).bind fun v => ?_
      split
      · exact (keeps_call closed performs _).wrapErrors (keeps_operationFault n attr)
      · exact .pure _

/-- Reading caches, beans and registries keeps what the steps in their scripts keep. -/
theorem readsKeep_of_performs : ReadsKeep perform P where
  cacheName := keeps_readCache performs Cache.name
  cacheUri := keeps_readCache performs Cache.uri
  askRegistered := keeps_askRegistered performs
  askAttribute := keeps_askAttribute closed performs
  log := closed.log

end

/-! ### Steps -/

section

variable (closed : TurnsKeep P)

include closed

theorem keeps_placeSettings (settings : Settings) : Keeps P (placeSettings settings) :=
  .get_bind fun _ _ => closed.modify.bind fun _ => .pure _

theorem keeps_placeCollector (registry : RegistryRef) (settings : Place) :
    Keeps P (placeCollector registry settings) := by
  refine .get_bind fun _ _ => Keeps.bind (.modify fun w h => ?_) fun _ => .pure _
  refine closed h (.aside rfl rfl ?_ fun ref => ⟨[], rfl⟩)
  rw [List.map_append]
  exact List.prefix_append _ _

theorem keeps_settingsPlace (source : SettingsSource) : Keeps P (settingsPlace source) := by
  cases source with
  | standard => exact keeps_placeSettings closed _
  | table entries =>
    rw [settingsPlace]
    split
    · exact keeps_placeSettings closed _
    · exact .throw _
  | sharedWith id => exact .get_bind fun _ _ => (keeps_collectorPlace id).bind fun _ => .pure _

/-- Once the name is evaluated, registering a bean is a request to its registry. -/
theorem keeps_registerBean {name : NameScript} (named : Keeps P (nameArgument perform name))
    (ref : RegistryRef) (bean : String) : Keeps P (registerBean perform ref name bean) := by
  intro w h
  rcases evaluated : (nameArgument perform name).runFrom w with ⟨f | argument, w₁⟩
  · rw [registerBean, runFrom_bind_of_error evaluated]
    exact named.after h evaluated
  have h₁ : P w₁ := named.after h evaluated
  cases known : w₁.beanIds.get? bean with
  | none =>
    rw [registerBean, runFrom_bind_of_ok evaluated, runFrom_get_bind, lookUp, known]
    exact h₁
  | some p => exact closed h₁ (serves_registerBean evaluated known).turn

/-- So is unregistering one. -/
theorem keeps_unregisterBean {name : NameScript} (named : Keeps P (nameArgument perform name))
    (ref : RegistryRef) : Keeps P (unregisterBean perform ref name) := by
  intro w h
  rcases evaluated : (nameArgument perform name).runFrom w with ⟨f | argument, w₁⟩
  · have unnamed : (objectName perform name).runFrom w = (.error f, w₁) :=
      runFrom_bind_of_error evaluated _
    rw [unregisterBean, runFrom_bind_of_error unnamed]
    exact named.after h evaluated
  · exact closed (named.after h evaluated) (serves_unregisterBean evaluated).turn

theorem keeps_register (metrics : String) (p : Place) : Keeps P (register metrics p) := by
  intro w h
  rw [runFrom_register]
  split
  · rename_i granted
    exact closed h (.register granted)
  · exact h

theorem keeps_sharedCollector : Keeps P sharedCollector := by
  intro w h
  rw [runFrom_sharedCollector]
  split
  · exact h
  · rename_i unshared
    split
    · rename_i granted
      exact closed h (.share unshared granted)
    · exact h

theorem keeps_assign (collector field : String) (value : Document.Value) :
    Keeps P (assign collector field value) := by
  refine (keeps_collectorPlace collector).bind fun p => .get_bind fun w h => ?_
  dsimp only
  split
  · -- the world that is put back is the one that was looked at
    refine Keeps.bind (fun _ _ => ?_) fun _ => .pure _
    exact closed h (.of_collectors rfl rfl rfl fun _ => rfl)
  · exact .throw _

/-- Every step keeps what turns keep, if the steps in its scripts do. -/
theorem keeps_execute (performs : ∀ step, Keeps P (perform step)) (step : Step) :
    Keeps P (execute perform step) := by
  have reads := readsKeep_of_performs closed performs
  have arguments := argumentsKeep_of_performs performs step
  have put : ∀ p roster w, P w → P ((collectorIn perform p).setRoster roster w) :=
    fun p roster w h => closed h (.setRoster w p roster)
  by_cases query : step.isQuery = true
  · exact keeps_execute_of_isQuery reads arguments query
  cases step with
  | newBean id sort attrs =>
    refine Keeps.bind (.mapM fun attr mem => ?_) fun members => closed.modify.bind fun _ => .pure _
    exact (arguments attr mem).bind fun _ => .pure _
  | setAttr bean attr value =>
    refine .get_bind fun w _ => (keeps_lookUp _ _).bind fun p => .get_bind fun v _ => ?_
    split
    · exact .throw _
    · exact (arguments _).bind fun member => closed.modify.bind fun _ => .pure _
  | dropAttr bean attr =>
    exact .get_bind fun w _ => (keeps_lookUp _ _).bind fun p => closed.modify.bind fun _ => .pure _
  | newCache id name uri => exact closed.modify.bind fun _ => .pure _
  | setCache id name uri =>
    exact .get_bind fun w _ => (keeps_lookUp _ _).bind fun p => closed.modify.bind fun _ => .pure _
  | newCollector id registry source =>
    exact (keeps_settingsPlace closed source).bind fun _ => (keeps_placeCollector closed _ _).bind
      fun _ => closed.modify.bind fun _ => .pure _
  | registerBean ref name bean => exact keeps_registerBean closed arguments ref bean
  | unregisterBean ref name => exact keeps_unregisterBean closed arguments ref
  | addCache collector cache =>
    exact (keeps_collectorPlace _).bind fun p => .get_bind fun w _ => (keeps_lookUp _ _).bind
      fun x => ((reads.collectorIn p).add (put p) (reads.cacheName x)).bind fun _ => .pure _
  | removeCache collector name =>
    exact (keeps_collectorPlace _).bind fun p => ((reads.collectorIn p).remove (put p) name).bind
      fun _ => .get_bind fun _ _ => .pure _
  | clear collector =>
    exact (keeps_collectorPlace _).bind fun p => ((reads.collectorIn p).clear (put p)).bind
      fun _ => .pure _
  | register collector metrics =>
    exact (keeps_collectorPlace _).bind fun p => (keeps_register closed metrics p).bind fun _ =>
      .pure _
  | assign collector field value => exact keeps_assign closed collector field value
  | registered =>
    exact .get_bind fun w _ => (keeps_sharedCollector closed).bind fun p => closed.modify.bind
      fun _ => .get_bind fun _ _ => .pure _
  | _ => exact absurd rfl query

/-- Steps keep what turns keep, however deep steps are performed in steps. -/
theorem keeps_performWithin (depth : Nat) (step : Step) : Keeps P (performWithin depth step) := by
  -- steps in scripts are performed one level down
  induction depth generalizing step with
  | zero => exact .throw _
  | succ depth ih => exact keeps_execute closed (fun s => (ih s).bind fun _ => .pure _) step

/-- What turns keep is kept by every step of a session. -/
theorem keeps_perform (step : Step) : Keeps P (Session.perform step) :=
  keeps_performWithin closed maxDepth step

/-- What turns keep is kept by every run. -/
theorem worldAfter_of_turnsKeep (steps : List Step) {w : World} (h : P w) :
    P (worldAfter steps w) := by
  induction steps generalizing w with
  | nil => exact h
  | cons step rest ih =>
    refine ih (keeps_perform closed step _ ?_)
    exact closed h (.of_collectors rfl rfl rfl fun _ => rfl)

end

end CacheTelemetry.Session
