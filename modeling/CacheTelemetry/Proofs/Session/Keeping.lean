import CacheTelemetry.Proofs.Collector.Keeping
import CacheTelemetry.Session.Run

/-!
# What steps keep

Which steps keep a property of worlds, if the scripts that they evaluate keep it: those of the
caches, beans and registries that they read (`ReadsKeep`), and those that are given with the step
(`Step.ArgumentsKeep`).

* **Queries keep it** (`keeps_execute_of_isQuery`): a query changes nothing by itself but the log.
* **Every step keeps it in failing** (`keepsFailing_execute`): a step changes nothing by itself
  before the last of its checks, and the one that does, asking for the collector of the process,
  undoes its changes.
-/

namespace CacheTelemetry.Session

open Effect

/-- The performer of the steps that scripts in a step of a session perform. -/
def nested : Performer := fun step => do let _ ← performWithin (maxDepth - 1) step

theorem perform_eq_execute (step : Step) : perform step = execute nested step := rfl

variable {perform : Performer} {P : World → Prop}

/-- What is evaluated in reading caches, beans and registries keeps a property of worlds, and so do
log records. -/
structure ReadsKeep (perform : Performer) (P : World → Prop) : Prop where
  cacheName : ∀ x, Keeps P (readCache perform Cache.name x)
  cacheUri : ∀ x, Keeps P (readCache perform Cache.uri x)
  askRegistered : ∀ ref n, Keeps P (askRegistered perform ref n)
  askAttribute : ∀ ref n attr, Keeps P (askAttribute perform ref n attr)
  log : ∀ record w, P w → P (w.log record)

/-- The scripts that are given with a step keep a property of worlds. -/
def Step.ArgumentsKeep (perform : Performer) (P : World → Prop) : Step → Prop
  | .newBean _ sort attrs => ∀ attr ∈ attrs, Keeps P (BeanMember.ofScript perform sort attr.2)
  | .setAttr _ _ value => ∀ sort, Keeps P (BeanMember.ofScript perform sort value)
  | .registerBean _ name _ | .unregisterBean _ name | .isRegistered _ name | .readAttr _ name _ =>
    Keeps P (nameArgument perform name)
  | .contains _ name => Keeps P (evaluate perform name)
  | _ => True

/-- A step that asks and changes nothing by itself. -/
def Step.isQuery : Step → Bool
  | .isRegistered .. | .readAttr .. | .names .. | .registrySize _ | .registryText _ | .size _
  | .text _ | .contains .. | .collect _ | .describe _ | .expose _ | .sampleValue .. | .settings _ =>
    true
  | _ => false

/-! ### Parts of steps -/

theorem keeps_lookUp (ids : OrderedMap String Place) (id : String) : Keeps P (lookUp ids id) := by
  rw [lookUp]
  split
  · exact .pure _
  · exact .throw _

/-- An identifier that is known means the collector that was made under it. -/
theorem runFrom_collectorPlace {w : World} {id : String} {p : Place}
    (known : w.collectorIds.get? id = some p) : (collectorPlace id).runFrom w = (.ok p, w) := by
  rw [collectorPlace, runFrom_get_bind, lookUp, known]
  rfl

theorem keeps_collectorPlace (id : String) : Keeps P (collectorPlace id) :=
  .get_bind fun _ _ => keeps_lookUp _ id

/-- The texts of a session are found without effects. -/
theorem keeps_wording (what : Wordable Callable) : Keeps P (wording what) := by
  rw [wording.eq_def]
  split
  · exact .ofExcept _
  · exact .get_bind fun _ _ => .pure _
  · exact .ofExcept _

theorem keeps_objectName {name : NameScript} (h : Keeps P (nameArgument perform name)) :
    Keeps P (objectName perform name) := h.bind fun _ => .ofExcept _

namespace ReadsKeep

variable (reads : ReadsKeep perform P)

include reads

/-- The foreign code of each collector keeps the property. -/
theorem collectorIn (p : Place) : (collectorIn perform p).ReadsKeep P where
  managerUri := reads.cacheUri
  isRegistered n := .get_bind fun _ _ => reads.askRegistered _ n
  readAttribute n st := .get_bind fun _ _ => reads.askAttribute _ n st.attrName
  wording := keeps_wording
  log := reads.log

theorem collectAll (ps : List Place) :
    Keeps P (MetricsRegistry.collectAll (fun p => (Session.collectorIn perform p).collect) ps) := by
  induction ps with
  | nil => exact .pure _
  | cons p rest ih =>
    exact (reads.collectorIn p).collect.bind fun _ => ih.bind fun _ => .pure _

theorem collectMetrics (id : String) : Keeps P (collectMetrics perform id) :=
  .get_bind fun _ _ => reads.collectAll _

end ReadsKeep

/-! ### Steps that make changes -/

theorem keepsFailing_settingsPlace (source : SettingsSource) :
    KeepsFailing P (settingsPlace source) := by
  have placed : ∀ settings, Succeeds (placeSettings settings) := fun _ =>
    .get_bind fun _ => .bind (.modify _) fun _ => .pure _
  cases source with
  | standard => exact (placed _).keepsFailing
  | table entries =>
    rw [settingsPlace]
    split
    · exact (placed _).keepsFailing
    · exact (Keeps.throw _).keepsFailing
  | sharedWith id =>
    exact (Keeps.get_bind fun _ _ => (keeps_collectorPlace id).bind fun _ => .pure _).keepsFailing

theorem keepsFailing_newCollector (id : String) (registry : RegistryRef)
    (source : SettingsSource) : KeepsFailing P (newCollector id registry source) :=
  Succeeds.bind_keepsFailing (keepsFailing_settingsPlace source) fun _ =>
    .bind (.get_bind fun _ => .bind (.modify _) fun _ => .pure _) fun _ =>
      .bind (.modify _) fun _ => .pure _

theorem keepsFailing_assign (collector field : String) (value : Document.Value) :
    KeepsFailing P (assign collector field value) := by
  refine (keeps_collectorPlace collector).bind_keepsFailing fun p => .get_bind fun w _ => ?_
  dsimp only
  split
  · exact (Succeeds.bind (.set _) fun _ => .pure _).keepsFailing
  · exact (Keeps.throw _).keepsFailing

/-- Registering a collector replaces the metrics registry, or changes nothing. -/
theorem runFrom_register (metrics : String) (p : Place) (w : World) :
    (register metrics p).runFrom w =
      match (w.metricsRegistry metrics).register p
          (Collector.describe : List (Family Callable)) with
      | .ok r => (.ok (), { w with metrics := w.metrics.insert metrics r })
      | .error f => (.error f, w) := by
  rw [register, runFrom_get_bind]
  cases (w.metricsRegistry metrics).register p (Collector.describe : List (Family Callable)) <;> rfl

theorem keepsFailing_register (metrics : String) (p : Place) :
    KeepsFailing P (register metrics p) :=
  .get_bind fun _ _ => (Keeps.ofExcept _).bind_keepsFailing fun _ => (Succeeds.set _).keepsFailing

/-- The world with new settings and a new collector for the process on its shelves. -/
def World.placeShared (w : World) : World :=
  { w with
    settings := w.settings ++ [.standard]
    collectors := w.collectors ++ [⟨.platform, w.settings.length, ∅⟩] }

/-- The world in which a new collector for the process has been registered, with `r` for the
result. -/
def World.share (w : World) (r : MetricsRegistry Place) : World :=
  World.log ⟨.exports, .info, "Registered global cache metrics collector", none⟩
    { w.placeShared with
      metrics := w.metrics.insert defaultMetrics r
      shared := some w.collectors.length }

/-- What asking for the collector of the process comes to: it is there, or a new one can be
registered, or nothing is changed. -/
theorem runFrom_sharedCollector (w : World) :
    sharedCollector.runFrom w =
      match w.shared with
      | some p => (.ok p, w)
      | none =>
        match (w.metricsRegistry defaultMetrics).register w.collectors.length
            (Collector.describe : List (Family Callable)) with
        | .ok r => (.ok w.collectors.length, w.share r)
        | .error f => (.error f, w) := by
  rw [sharedCollector, runFrom_get_bind]
  rcases w.shared with _ | p
  · have registered := runFrom_register defaultMetrics w.collectors.length w.placeShared
    have placed : w.placeShared.metricsRegistry defaultMetrics =
        w.metricsRegistry defaultMetrics := rfl
    rw [placed] at registered
    -- a new collector is placed without fail, and then it is to be registered
    have made : (placeSettings .standard >>= fun settings => placeCollector .platform settings >>=
        fun p => register defaultMetrics p >>= fun _ => pure p).runFrom w =
        (register defaultMetrics w.collectors.length >>= fun _ =>
          pure w.collectors.length).runFrom w.placeShared := rfl
    cases hr : (w.metricsRegistry defaultMetrics).register w.collectors.length
        (Collector.describe : List (Family Callable)) with
    | error f =>
      rw [hr] at registered
      rw [runFrom_bind_of_error registered] at made
      refine runFrom_bind_of_error ?_ _
      rw [runFrom_tryCatch, made]
      rfl
    | ok r =>
      rw [hr] at registered
      rw [runFrom_bind_of_ok registered] at made
      refine (runFrom_bind_of_ok (a := w.collectors.length)
        (t := { w.placeShared with metrics := w.metrics.insert defaultMetrics r }) ?_ _).trans rfl
      rw [runFrom_tryCatch, made]
      rfl
  · rfl

theorem keepsFailing_sharedCollector : KeepsFailing P sharedCollector := by
  intro w f t h run
  rw [runFrom_sharedCollector] at run
  split at run
  · cases run
  · split at run <;> cases run
    exact h

/-! ### Steps -/

section

variable {step : Step} (reads : ReadsKeep perform P) (arguments : step.ArgumentsKeep perform P)

include reads arguments

/-- Queries keep what their scripts keep. -/
theorem keeps_execute_of_isQuery (query : step.isQuery = true) :
    Keeps P (execute perform step) := by
  cases step with
  | isRegistered ref name =>
    exact (keeps_objectName arguments).bind fun n => (reads.askRegistered ref n).bind fun _ =>
      .pure _
  | readAttr ref name attr =>
    exact (keeps_objectName arguments).bind fun n => (reads.askAttribute ref n attr).bind fun _ =>
      .pure _
  | names ref domain => exact .get_bind fun _ _ => .pure _
  | registrySize ref => exact .get_bind fun _ _ => .pure _
  | registryText ref => exact .get_bind fun _ _ => .pure _
  | size id => exact (keeps_collectorPlace id).bind fun _ => .get_bind fun _ _ => .pure _
  | text id =>
    exact (keeps_collectorPlace id).bind fun _ => .get_bind fun _ _ => (Keeps.ofExcept _).bind
      fun _ => .pure _
  | contains id name =>
    refine (keeps_collectorPlace id).bind fun p => Keeps.bind arguments fun v => ?_
    refine Keeps.bind (fun w h => ?_) fun _ => .pure _
    rwa [Collector.runFrom_contains_snd]
  | collect id =>
    exact (keeps_collectorPlace id).bind fun p => (reads.collectorIn p).collect.bind fun _ =>
      .pure _
  | describe id => exact (keeps_collectorPlace id).bind fun _ => .pure _
  | expose id =>
    exact (reads.collectMetrics id).bind fun _ => (Keeps.ofExcept _).bind fun _ => .pure _
  | sampleValue id metric label => exact (reads.collectMetrics id).bind fun _ => .pure _
  | settings id => exact .get_bind fun _ _ => (keeps_collectorPlace id).bind fun _ => .pure _
  | _ => cases query

/-- Every step that fails keeps what its scripts keep. -/
theorem keepsFailing_execute : KeepsFailing P (execute perform step) := by
  by_cases query : step.isQuery = true
  · exact (keeps_execute_of_isQuery reads arguments query).keepsFailing
  -- what may fail comes first, and keeps the property; from the change on nothing fails
  cases step with
  | newBean id sort attrs =>
    refine Keeps.bind_keepsFailing (.mapM fun attr mem => ?_) fun members => ?_
    · exact (arguments attr mem).bind fun _ => .pure _
    · exact (Succeeds.bind (.modify _) fun _ => .pure _).keepsFailing
  | setAttr bean attr value =>
    refine .get_bind fun w _ => (keeps_lookUp _ _).bind_keepsFailing fun p => ?_
    refine .get_bind fun v _ => ?_
    split
    · exact (Keeps.throw _).keepsFailing
    · exact (arguments _).bind_keepsFailing fun member =>
        (Succeeds.bind (.modify _) fun _ => .pure _).keepsFailing
  | dropAttr bean attr =>
    exact .get_bind fun w _ => (keeps_lookUp _ _).bind_keepsFailing fun p =>
      (Succeeds.bind (.modify _) fun _ => .pure _).keepsFailing
  | newCache id name uri => exact (Succeeds.bind (.modify _) fun _ => .pure _).keepsFailing
  | setCache id name uri =>
    exact .get_bind fun w _ => (keeps_lookUp _ _).bind_keepsFailing fun p =>
      (Succeeds.bind (.modify _) fun _ => .pure _).keepsFailing
  | newCollector id registry source => exact keepsFailing_newCollector id registry source
  | registerBean ref name bean =>
    exact Keeps.bind_keepsFailing arguments fun argument => .get_bind fun _ _ =>
      (keeps_lookUp _ _).bind_keepsFailing fun p => (Keeps.ofExcept _).bind_keepsFailing fun n =>
        .get_bind fun _ _ => (Keeps.ofExcept _).bind_keepsFailing fun r =>
          (Succeeds.bind (.modify _) fun _ => .pure _).keepsFailing
  | unregisterBean ref name =>
    refine (keeps_objectName arguments).bind_keepsFailing fun n => .get_bind fun _ _ =>
      (Keeps.ofExcept _).bind_keepsFailing fun ⟨p, r⟩ => ?_
    exact (Succeeds.bind (.modify _) fun _ => .get_bind fun _ => .pure _).keepsFailing
  | addCache collector cache =>
    refine (keeps_collectorPlace _).bind_keepsFailing fun p => .get_bind fun w _ =>
      (keeps_lookUp _ _).bind_keepsFailing fun x => ?_
    exact Succeeds.bind_keepsFailing (Collector.add_keepsFailing (reads.cacheName x)) fun _ =>
      .pure _
  | removeCache collector name =>
    exact (keeps_collectorPlace _).bind_keepsFailing fun p =>
      (Succeeds.bind (Collector.succeeds_remove name) fun _ => .get_bind fun _ =>
        .pure _).keepsFailing
  | clear collector =>
    exact (keeps_collectorPlace _).bind_keepsFailing fun p =>
      (Succeeds.bind Collector.succeeds_clear fun _ => .pure _).keepsFailing
  | register collector metrics =>
    exact (keeps_collectorPlace _).bind_keepsFailing fun p =>
      Succeeds.bind_keepsFailing (keepsFailing_register metrics p) fun _ => .pure _
  | assign collector field value => exact keepsFailing_assign collector field value
  | registered =>
    exact .get_bind fun w _ => Succeeds.bind_keepsFailing keepsFailing_sharedCollector fun p =>
      .bind (.modify _) fun _ => .get_bind fun _ => .pure _
  | _ => exact absurd rfl query

end

end CacheTelemetry.Session
