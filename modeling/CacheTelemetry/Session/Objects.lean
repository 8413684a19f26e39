import CacheTelemetry.Collector.Scrape
import CacheTelemetry.Registry.Attribute
import CacheTelemetry.Session.Evaluate

/-!
# The objects of a session

How the beans, registries and collectors of a world are read: beans through their contents,
registries through their beans unless the session scripts the answer, collectors through the caches
of their rosters.
-/

namespace CacheTelemetry.Session

/-- The value of an attribute that a bean has, or else a fault. -/
def readMember (perform : Performer) (absent : String → Fault) (b : Bean) (attr : String) :
    Effect World (Value Callable) :=
  match b.members.get? attr with
  | some (.value v) => return v
  | some (.script s) => evaluate perform s
  | none => throw (absent attr)

/-- How the bean in a place is read. A place without a bean is read as an empty mapping. -/
def beanView (perform : Performer) (w : World) (p : Place) : BeanView World Callable :=
  match w.beans[p]? with
  | none => .mapping [] fun attr => throw (.unknownId attr)
  | some b =>
    match b.sort with
    | .stored | .lazy => .mapping b.members.keys (readMember perform .unknownId b)
    | .object => .object (readMember perform .absentAttribute b)

/-- The texts of values and errors in a session. An error that reports taken names lists them in the
order of the process. -/
def wording : Wording World Callable
  | .value v => Effect.ofExcept (v.written Value.quoted)
  | .error (.takenSeries names) => do
    return (Fault.takenSeries ((← get).surroundings.listing names)).message
  | .error f => Effect.ofExcept f.written

/-- The answer of a registry whether a name is registered. -/
def askRegistered (perform : Performer) (ref : RegistryRef) (n : ObjectName) :
    Effect World (Value Callable) := do
  let w ← get
  match (w.scripted ref).isRegistered.get? n.canonical with
  | some script => evaluate perform script
  | none => return .bool ((w.registry ref).isRegistered n)

/-- The answer of a registry to a question for an attribute. -/
def askAttribute (perform : Performer) (ref : RegistryRef) (n : ObjectName) (attr : String) :
    Effect World (Value Callable) := do
  let w ← get
  match ((w.scripted ref).attrs.get? n.canonical).bind fun answers => answers.get? attr with
  | some script => evaluate perform script
  | none => (w.registry ref).readAttribute (beanView perform w) (call perform) wording n attr

/-- Reads a part of the cache in a place. -/
def readCache (perform : Performer) (part : Cache → Script) (p : Place) :
    Effect World (Value Callable) := do
  match (← get).caches[p]? with
  | some cache => evaluate perform (part cache)
  | none => return .null

/-- The collector in a place. -/
def collectorIn (perform : Performer) (p : Place) : Collector World Callable Place where
  roster w := (w.collectorAt p).roster
  setRoster r w := w.modifyCollector p fun c => { c with roster := r }
  settings w := w.settingsAt (w.collectorAt p).settings
  cacheName := readCache perform Cache.name
  managerUri := readCache perform Cache.uri
  isRegistered n := do askRegistered perform ((← get).collectorAt p).registry n
  readAttribute n attr := do askAttribute perform ((← get).collectorAt p).registry n attr
  wording := wording
  log := World.log

/-- The object that an identifier means. -/
def lookUp (ids : OrderedMap String Place) (id : String) : Effect World Place :=
  match ids.get? id with
  | some p => return p
  | none => throw (.unknownId id)

/-- The collector that an identifier means. -/
def collectorPlace (id : String) : Effect World Place := do lookUp (← get).collectorIds id

/-- The families of all collectors of a metrics registry. -/
def collectMetrics (perform : Performer) (id : String) : Effect World (List (Family Callable)) := do
  MetricsRegistry.collectAll (fun p => (collectorIn perform p).collect)
    ((← get).metricsRegistry id).collectors

end CacheTelemetry.Session
