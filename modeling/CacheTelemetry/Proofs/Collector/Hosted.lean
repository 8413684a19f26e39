import CacheTelemetry.Proofs.Registry.Contract
import CacheTelemetry.Proofs.Session.Turns

/-!
# Collectors over a management registry

The registry that a collector asks may be anything that answers its two questions. A *host* is a
management registry that the states of a system hold, with its beans and the ways in which they are
read; it answers both questions from the beans that are registered at the moment. A collector is
*hosted* if throughout a scrape its registry answers as a host does (`Collector.IsHosted`).

**A collector of a session that reads the registry of the process is hosted by it**, whatever the
session does (`Session.isHosted_of_platform`).
-/

namespace CacheTelemetry

open Effect

/-- A management registry as the states of a system hold it: its beans, how each of them is read,
how callables are called, and the texts of foreign errors. -/
structure Host (σ κ β : Type) where
  registry : σ → Registry β
  view : σ → β → BeanView σ κ
  call : κ → Effect σ (Value κ)
  word : Wording σ κ

namespace Host

variable {σ κ β : Type}

/-- The answer whether a name is registered, as a value. -/
def isRegistered (h : Host σ κ β) (n : ObjectName) : Effect σ (Value κ) := do
  return .bool ((h.registry (← get)).isRegistered n)

/-- The value of an attribute, from the bean that there is under the name at the moment. -/
def readAttribute (h : Host σ κ β) (n : ObjectName) (attr : String) : Effect σ (Value κ) := do
  let s ← get
  (h.registry s).readAttribute (h.view s) h.call h.word n attr

theorem runFrom_isRegistered (h : Host σ κ β) (n : ObjectName) (s : σ) :
    (h.isRegistered n).runFrom s = (.ok (.bool ((h.registry s).isRegistered n)), s) := rfl

theorem runFrom_readAttribute (h : Host σ κ β) (n : ObjectName) (attr : String) (s : σ) :
    (h.readAttribute n attr).runFrom s =
      ((h.registry s).readAttribute (h.view s) h.call h.word n attr).runFrom s := rfl

end Host

/-- Throughout a scrape the registry of the collector answers as the management registry that the
states hold. Both find the same words. -/
structure Collector.IsHosted {σ κ χ β : Type} [BEq κ] (c : Collector σ κ χ) (h : Host σ κ β)
    (s : σ) : Prop where
  isRegistered : ∀ t, c.Reached s t → ∀ n,
    (c.isRegistered n).runFrom t = (h.isRegistered n).runFrom t
  readAttribute : ∀ t, c.Reached s t → ∀ n (st : Statistic),
    (c.readAttribute n st.attrName).runFrom t = (h.readAttribute n st.attrName).runFrom t
  wording : c.wording = h.word

namespace Session

/-- The registry of the process, with the beans of the session. -/
def platformHost : Host World Callable Place where
  registry w := w.platform
  view := beanView fun step => do let _ ← perform step
  call := call fun step => do let _ ← perform step
  word := wording

theorem collectorAt_of_platform {p : Place} {w : World}
    (platform : (w.collectors.map CollectorState.registry)[p]? = some .platform) :
    (w.collectorAt p).registry = .platform := by
  rw [List.getElem?_map] at platform
  rw [World.collectorAt]
  cases hc : w.collectors[p]? with
  | none =>
    rw [hc] at platform
    cases platform
  | some collector =>
    rw [hc] at platform
    exact Option.some.inj platform

/-- A collector that reads the registry of the process is hosted by it. -/
theorem isHosted_of_platform {p : Place} {w : World}
    (platform : (w.collectors.map CollectorState.registry)[p]? = some .platform) :
    (collector p).IsHosted platformHost w := by
  have reads : ReadsKeep (fun step => do let _ ← perform step) fun w : World =>
      (w.collectors.map CollectorState.registry)[p]? = some .platform :=
    readsKeep_of_performs (turnsKeep_platform p) fun step =>
      (keeps_perform (turnsKeep_platform p) step).bind fun _ => .pure _
  have still : ∀ v, (collector p).Reached w v → (v.collectorAt p).registry = .platform :=
    fun v reached => collectorAt_of_platform ((reads.collectorIn p).reached platform reached)
  refine ⟨?_, ?_, rfl⟩
  · intro v reached n
    have asked : ((collector p).isRegistered n).runFrom v =
        (askRegistered (fun step => do let _ ← perform step) (v.collectorAt p).registry n).runFrom
          v := rfl
    rw [asked, still v reached]
    rfl
  · intro v reached n st
    have asked : ((collector p).readAttribute n st.attrName).runFrom v =
        (askAttribute (fun step => do let _ ← perform step) (v.collectorAt p).registry n
          st.attrName).runFrom v := rfl
    rw [asked, still v reached]
    rfl

/-- The name of the statistics of the cache `users` of a manager with the address `m`. -/
def usersName : ObjectName :=
  .ofAdmissible (ObjectName.firstFault_eq_none_iff.1
    (show ObjectName.firstFault "javax.cache"
      [("type", "CacheStatistics"), ("CacheManager", "m"), ("Cache", "users")] = none by decide))

end Session

end CacheTelemetry
