import CacheTelemetry.Collector.Basic
import CacheTelemetry.Metric.Registry
import CacheTelemetry.Registry.Basic
import CacheTelemetry.Session.Script

/-!
# The world of a session

The state that the steps of a session act on. Beans, caches, settings and collectors live on shelves
and are known by their places there; an identifier of the session means the object that was made
last under it, while registries and rosters keep the places of the objects that they hold. A session
may use any number of registries, each of which is empty until something is done to it.
-/

namespace CacheTelemetry.Session

/-- A place on a shelf. -/
abbrev Place := Nat

/-- What a bean keeps for an attribute: a value, or a script that is evaluated with each read. -/
inductive BeanMember where
  | value (v : Value Callable)
  | script (s : Script)

/-- A bean of a session. -/
structure Bean where
  id : String
  sort : BeanSort
  members : OrderedMap String BeanMember

/-- A cache of a session. -/
structure Cache where
  id : String
  name : Script
  uri : Script

/-- What a collector of a session consists of. Without a registry of its own it looks up the
registry of the process with each scrape. -/
structure CollectorState where
  registry : RegistryRef
  settings : Place
  roster : Roster Callable Place

/-- Answers that a registry gives instead of its own, by canonical name. -/
structure ScriptedAnswers where
  isRegistered : OrderedMap String Script
  attrs : OrderedMap String (OrderedMap String Script)

instance : Inhabited ScriptedAnswers := ⟨⟨∅, ∅⟩⟩

/-- What a session finds around it. -/
structure Surroundings where
  /-- The answers that registries of the session are scripted to give. -/
  scripted : OrderedMap String ScriptedAnswers
  /-- The order in which the process lists a set of texts. Only messages show it. -/
  listing : List String → List String

instance : Inhabited Surroundings := ⟨⟨∅, id⟩⟩

/-- The state of a session. -/
structure World where
  beans : List Bean
  caches : List Cache
  settings : List Settings
  collectors : List CollectorState
  beanIds : OrderedMap String Place
  cacheIds : OrderedMap String Place
  collectorIds : OrderedMap String Place
  /-- The registries of the session. -/
  registries : OrderedMap String (Registry Place)
  /-- The registry of the process. -/
  platform : Registry Place
  surroundings : Surroundings
  metrics : OrderedMap String (MetricsRegistry Place)
  /-- The collector of the whole process, once there is one. -/
  shared : Option Place
  /-- How often the counter of a cell was called. -/
  calls : OrderedMap Nat Nat
  /-- The log, the last record first. -/
  journal : List LogRecord

/-- The identifier of the collector that a session begins with. -/
def mainId : String := "main"

/-- The identifier of the collector of the whole process. -/
def sharedId : String := "global"

/-- The identifier of the metrics registry of the whole process. -/
def defaultMetrics : String := "default"

/-- The world at the beginning: registries without beans, and one collector. -/
def World.start (settings : Settings) (surroundings : Surroundings) : World where
  beans := []
  caches := []
  settings := [settings]
  collectors := [⟨.main, 0, ∅⟩]
  beanIds := ∅
  cacheIds := ∅
  collectorIds := .ofList [(mainId, 0)]
  registries := ∅
  platform := ∅
  surroundings := surroundings
  metrics := ∅
  shared := none
  calls := ∅
  journal := []

instance : Inhabited World := ⟨.start .standard default⟩

namespace World

/-- One of the registries; one that nothing was done to is empty. -/
def registry (w : World) : RegistryRef → Registry Place
  | .named id => (w.registries.get? id).getD ∅
  | .platform => w.platform

/-- The world with another registry in the place of one. -/
def setRegistry (w : World) (ref : RegistryRef) (r : Registry Place) : World :=
  match ref with
  | .named id => { w with registries := w.registries.insert id r }
  | .platform => { w with platform := r }

/-- The answers that a registry is scripted to give. Only registries of the session are. -/
def scripted (w : World) : RegistryRef → ScriptedAnswers
  | .named id => (w.surroundings.scripted.get? id).getD default
  | .platform => default

/-- A metrics registry; one that nothing was done to is empty. -/
def metricsRegistry (w : World) (id : String) : MetricsRegistry Place :=
  (w.metrics.get? id).getD ∅

/-- The settings in a place. -/
def settingsAt (w : World) (p : Place) : Settings := (w.settings[p]?).getD .standard

/-- The collector in a place. -/
def collectorAt (w : World) (p : Place) : CollectorState :=
  (w.collectors[p]?).getD ⟨.platform, p, ∅⟩

/-- Changes the collector in a place. -/
def modifyCollector (w : World) (p : Place) (f : CollectorState → CollectorState) : World :=
  { w with collectors := w.collectors.modify p f }

/-- Writes a record to the log. -/
def log (r : LogRecord) (w : World) : World := { w with journal := r :: w.journal }

end World

end CacheTelemetry.Session
