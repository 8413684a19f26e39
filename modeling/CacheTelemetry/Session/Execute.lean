import CacheTelemetry.Metric.Exposition
import CacheTelemetry.Session.Objects

/-!
# Performing steps

What each step of a session does to the world and what it answers. A step that fails has the fault
for its answer, and the session goes on in the world that it left.

Steps may perform steps in turn, through the scripts that they evaluate. `perform` bounds the depth
of this; beyond `maxDepth` the reads are taken to be endless.
-/

namespace CacheTelemetry.Session

/-- What a step answers. -/
inductive Answer where
  | done
  | text (s : String)
  | flag (b : Bool)
  | count (n : Nat)
  | id (found : Option String)
  | value (v : Value Callable)
  | names (canonical : List String)
  | families (families : List (Family Callable))
  | sample (value : Option Int)
  | settings (s : Settings)
  /-- The collector of the process: whether it is the one given before, if one was, and its size. -/
  | shared (sameAsBefore : Option Bool) (size : Nat)

/-- What a bean of a sort keeps for an attribute that is given by a script. -/
def BeanMember.ofScript (perform : Performer) (sort : BeanSort) (s : Script) :
    Effect World BeanMember :=
  match sort with
  | .stored => .value <$> evaluate perform s
  | .lazy | .object => return .script s

/-- The identifier of the bean in a place. -/
def beanId (w : World) (p : Place) : Option String := (w.beans[p]?).map Bean.id

/-- The identifier of the cache in a place. -/
def cacheId (w : World) (p : Place) : Option String := (w.caches[p]?).map Cache.id

/-! ### Objects -/

/-- Makes a bean. -/
def newBean (perform : Performer) (id : String) (sort : BeanSort)
    (attrs : List (String × Script)) : Effect World Answer := do
  let members ← attrs.mapM fun (k, s) => do return (k, ← BeanMember.ofScript perform sort s)
  modify fun w => { w with
    beans := w.beans ++ [⟨id, sort, .ofList members⟩]
    beanIds := w.beanIds.insert id w.beans.length }
  return .done

/-- Changes the attributes of the bean in a place. -/
def modifyMembers (p : Place)
    (f : OrderedMap String BeanMember → OrderedMap String BeanMember) : Effect World Unit :=
  modify fun w => { w with
    beans := w.beans.modify p fun b => { b with members := f b.members } }

/-- Sets an attribute of a bean. The script may change the bean before that. -/
def setAttr (perform : Performer) (bean attr : String) (value : Script) : Effect World Answer := do
  let p ← lookUp (← get).beanIds bean
  match (← get).beans[p]? with
  | none => throw (.unknownId bean)
  | some b =>
    let member ← BeanMember.ofScript perform b.sort value
    modifyMembers p fun members => members.insert attr member
    return .done

/-- Removes an attribute of a bean, if it has it. -/
def dropAttr (bean attr : String) : Effect World Answer := do
  let p ← lookUp (← get).beanIds bean
  modifyMembers p fun members => members.erase attr
  return .done

/-- Makes a cache. -/
def newCache (id : String) (name uri : Script) : Effect World Answer := do
  modify fun w => { w with
    caches := w.caches ++ [⟨id, name, uri⟩], cacheIds := w.cacheIds.insert id w.caches.length }
  return .done

/-- Changes a cache. -/
def setCache (id : String) (name uri : Option Script) : Effect World Answer := do
  let p ← lookUp (← get).cacheIds id
  modify fun w => { w with
    caches := w.caches.modify p fun c =>
      { c with name := name.getD c.name, uri := uri.getD c.uri } }
  return .done

/-! ### Management registries -/

/-- Registers a bean. -/
def registerBean (perform : Performer) (ref : RegistryRef) (name : NameScript) (bean : String) :
    Effect World Answer := do
  let argument ← nameArgument perform name
  let p ← lookUp (← get).beanIds bean
  let n ← Effect.ofExcept argument.resolve
  let registry ← Effect.ofExcept (((← get).registry ref).register n p)
  modify fun w => (w.setRegistry ref registry).log
    (.detail .registry ("Registered statistics bean " ++ n.canonical))
  return .text n.canonical

/-- Takes a bean out of a registry. -/
def unregisterBean (perform : Performer) (ref : RegistryRef) (name : NameScript) :
    Effect World Answer := do
  let n ← objectName perform name
  let (p, registry) ← Effect.ofExcept (((← get).registry ref).unregister n)
  modify fun w => (w.setRegistry ref registry).log
    (.detail .registry ("Unregistered statistics bean " ++ n.canonical))
  return .id (beanId (← get) p)

/-- The canonical names of the beans in a registry, in the order of code points. -/
def registeredNames (ref : RegistryRef) (domain : Option String) (w : World) : List String :=
  (((w.registry ref).names domain).map ObjectName.canonical).mergeSort fun a b => a ≤ b

/-! ### Collectors -/

/-- Adds a collector to the shelf and gives its place. -/
def placeCollector (registry : RegistryRef) (settings : Place) : Effect World Place := do
  let p := (← get).collectors.length
  modify fun w => { w with collectors := w.collectors ++ [⟨registry, settings, ∅⟩] }
  return p

/-- Adds settings to the shelf and gives their place. -/
def placeSettings (settings : Settings) : Effect World Place := do
  let p := (← get).settings.length
  modify fun w => { w with settings := w.settings ++ [settings] }
  return p

/-- The place of the settings for a new collector. -/
def settingsPlace : SettingsSource → Effect World Place
  | .standard => placeSettings .standard
  | .table entries =>
    match Settings.ofTable entries with
    | .ok settings => placeSettings settings
    | .error rejections => throw (.rejected rejections)
  | .sharedWith id => do
    let w ← get
    return (w.collectorAt (← collectorPlace id)).settings

/-- Makes a collector. -/
def newCollector (id : String) (registry : RegistryRef) (source : SettingsSource) :
    Effect World Answer := do
  let p ← placeCollector registry (← settingsPlace source)
  modify fun w => { w with collectorIds := w.collectorIds.insert id p }
  return .done

/-- Sets a field of the settings of a collector. -/
def assign (collector field : String) (value : Document.Value) : Effect World Answer := do
  let p ← collectorPlace collector
  let w ← get
  let place := (w.collectorAt p).settings
  match (w.settingsAt place).assign field value with
  | .ok settings =>
    set { w with settings := w.settings.set place settings }
    return .settings settings
  | .error fault => throw (.ofAssignment field fault)

/-- Registers a collector in a metrics registry. -/
def register (metrics : String) (p : Place) : Effect World Unit := do
  let w ← get
  let registry ← Effect.ofExcept
    ((w.metricsRegistry metrics).register p (Collector.describe : List (Family Callable)))
  set { w with metrics := w.metrics.insert metrics registry }

/-- The collector of the process, made and registered where there is none yet. Where it cannot be
registered there is none afterwards either. -/
def sharedCollector : Effect World Place := do
  let w ← get
  match w.shared with
  | some p => return p
  | none =>
    let made : Effect World Place := do
      let p ← placeCollector .platform (← placeSettings .standard)
      register defaultMetrics p
      return p
    let p ← tryCatch made fun f => do
      set w
      throw f
    modify fun w => { w with shared := some p }.log
      ⟨.exports, .info, "Registered global cache metrics collector", none⟩
    return p

/-- Asks for the collector of the process. -/
def registered : Effect World Answer := do
  let before := (← get).shared
  let p ← sharedCollector
  modify fun w => { w with collectorIds := w.collectorIds.insert sharedId p }
  return .shared (before.map fun q => decide (q = p)) ((← get).collectorAt p).roster.size

/-! ### Steps -/

/-- Performs a step. -/
def execute (perform : Performer) : Step → Effect World Answer
  | .newBean id sort attrs => newBean perform id sort attrs
  | .setAttr bean attr value => setAttr perform bean attr value
  | .dropAttr bean attr => dropAttr bean attr
  | .newCache id name uri => newCache id name uri
  | .setCache id name uri => setCache id name uri
  | .newCollector id registry settings => newCollector id registry settings
  | .registerBean ref name bean => registerBean perform ref name bean
  | .unregisterBean ref name => unregisterBean perform ref name
  | .isRegistered ref name => do
    return .flag (← askRegistered perform ref (← objectName perform name)).truth
  | .readAttr ref name attr => do
    return .value (← askAttribute perform ref (← objectName perform name) attr)
  | .names ref domain => do return .names (registeredNames ref domain (← get))
  | .registrySize ref => do return .count ((← get).registry ref).size
  | .registryText ref => do return .text ((← get).registry ref).text
  | .addCache collector cache => do
    let p ← collectorPlace collector
    (collectorIn perform p).add (← lookUp (← get).cacheIds cache)
    return .done
  | .removeCache collector name => do
    let removed ← (collectorIn perform (← collectorPlace collector)).remove name
    return .id (removed.bind (cacheId (← get)))
  | .clear collector => do
    (collectorIn perform (← collectorPlace collector)).clear
    return .done
  | .size collector => do
    let p ← collectorPlace collector
    return .count ((← get).collectorAt p).roster.size
  | .text collector => do
    let p ← collectorPlace collector
    return .text (← Effect.ofExcept ((collectorIn perform p).text (← get)))
  | .contains collector name => do
    let p ← collectorPlace collector
    return .flag (← (collectorIn perform p).contains (← evaluate perform name))
  | .collect collector => do
    return .families (← (collectorIn perform (← collectorPlace collector)).collect)
  | .describe collector => do
    let _ ← collectorPlace collector
    return .families Collector.describe
  | .register collector metrics => do
    register metrics (← collectorPlace collector)
    return .flag true
  | .expose metrics => do
    return .text (← Effect.ofExcept (Exposition.text (← collectMetrics perform metrics)))
  | .sampleValue metrics metric label => do
    return .sample (CacheTelemetry.sampleValue (← collectMetrics perform metrics) metric label)
  | .settings collector => do
    let w ← get
    return .settings (w.settingsAt (w.collectorAt (← collectorPlace collector)).settings)
  | .assign collector field value => assign collector field value
  | .registered => registered

/-- The depth to which steps may perform steps. -/
def maxDepth : Nat := 200

/-- Performs a step in which at most `depth` further ones are nested. -/
def performWithin : Nat → Step → Effect World Answer
  | 0, _ => throw .endlessReads
  | depth + 1, step => execute (fun s => do let _ ← performWithin depth s) step

/-- Performs a step. -/
def perform (step : Step) : Effect World Answer := performWithin maxDepth step

end CacheTelemetry.Session
