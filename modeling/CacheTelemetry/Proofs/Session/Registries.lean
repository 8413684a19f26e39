import CacheTelemetry.Proofs.Collector.Patterns
import CacheTelemetry.Proofs.Registry.FiniteMap
import CacheTelemetry.Proofs.Session.Turns

/-!
# Management registries in a session

A step that registers or unregisters a bean is one request to one registry (`serves_registerBean`,
`serves_unregisterBean`), and nothing else in a session touches the management registries. So
**whatever a session does, each of its registries serves requests one after the other**
(`registry_worldAfter`), however deep in scripts the steps are performed that make them, and so it
does in the course of a scrape (`registry_of_reached`).

What holds of registries that came about by requests therefore holds of those of a session: they are
finite maps (`standsFor_worldAfter`), and a scrape may ask them about patterns or not
(`runFrom_collectBy_worldAfter`).
-/

namespace CacheTelemetry.Session

open Effect Registry

variable {w v : World} {p : Place}

/-- Each management registry of `v` is the one of `w` after some requests. -/
def World.ServedTo (w v : World) : Prop :=
  ∀ ref, ∃ requests, v.registry ref = (w.registry ref).serveAll requests

/-- Turns go on serving requests. -/
theorem turnsKeep_servedTo (w : World) : TurnsKeep w.ServedTo := by
  intro u v served turn ref
  obtain ⟨before, hu⟩ := served ref
  obtain ⟨later, hv⟩ : ∃ later, v.registry ref = (u.registry ref).serveAll later := by
    cases turn with
    | aside _ _ _ served => exact served ref
    | register granted => exact ⟨[], rfl⟩
    | share unshared granted => exact ⟨[], by cases ref <;> rfl⟩
  exact ⟨before ++ later, by rw [hv, hu, serveAll_append]⟩

theorem World.servedTo_self (w : World) : w.ServedTo w := fun _ => ⟨[], rfl⟩

/-- **Steps do nothing to a registry but requests.** -/
theorem registry_worldAfter (steps : List Step) (w : World) (ref : RegistryRef) :
    ∃ requests, (worldAfter steps w).registry ref = (w.registry ref).serveAll requests :=
  worldAfter_of_turnsKeep (turnsKeep_servedTo w) steps w.servedTo_self ref

/-- Neither does a scrape, whatever the foreign code in it comes to. -/
theorem registry_of_reached (reached : (collector p).Reached w v) (ref : RegistryRef) :
    ∃ requests, v.registry ref = (w.registry ref).serveAll requests := by
  have reads : ReadsKeep (fun step => do let _ ← perform step) w.ServedTo :=
    readsKeep_of_performs (turnsKeep_servedTo w) fun step =>
      (keeps_perform (turnsKeep_servedTo w) step).bind fun _ => .pure _
  exact (reads.collectorIn p).reached w.servedTo_self reached ref

variable {settings : Settings} {surroundings : Surroundings}

/-- The registries of a session came about by requests. -/
theorem isRequested_worldAfter (steps : List Step) (ref : RegistryRef) :
    ((worldAfter steps (.start settings surroundings)).registry ref).IsRequested := by
  obtain ⟨requests, served⟩ := registry_worldAfter steps (.start settings surroundings) ref
  have empty : (World.start settings surroundings).registry ref = ∅ := by
    cases ref <;> rfl
  exact ⟨requests, by rw [served, empty]⟩

/-- **The registries of a session are finite maps.** What was granted in it says which beans they
hold, and their queries and the outcome of every further request say the same. -/
theorem standsFor_worldAfter (steps : List Step) (ref : RegistryRef) :
    let r := (worldAfter steps (.start settings surroundings)).registry ref
    ∃ requests, r = serveAll ∅ requests ∧
      r.StandsFor (History.latest? (changes ∅ requests)) := by
  intro r
  have requested : r.IsRequested := isRequested_worldAfter steps ref
  obtain ⟨requests, served⟩ := id requested
  refine ⟨requests, served.symm, ?_⟩
  rw [← get?_serveAll_empty, served]
  exact standsFor_get? fun _ => requested.get?_of_isPattern

/-- In a session, a scrape over the registry of the process may ask it about patterns or not. -/
theorem runFrom_collectBy_worldAfter (steps : List Step) :
    let w := worldAfter steps (.start settings surroundings)
    (w.collectors.map CollectorState.registry)[p]? = some .platform →
      ((collector p).collectBy (collector p).askStatistics).runFrom w =
        (collector p).collect.runFrom w := by
  intro w platform
  have hosted : (collector p).IsHosted platformHost w := isHosted_of_platform platform
  refine Collector.runFrom_collectBy fun v reached n => ?_
  have requested : (platformHost.registry v).IsRequested := by
    obtain ⟨requests, since⟩ := registry_of_reached reached .platform
    rw [show platformHost.registry v = v.registry .platform from rfl, since]
    exact (isRequested_worldAfter steps .platform).serveAll requests
  exact Collector.runFrom_askStatistics hosted reached requested n

end CacheTelemetry.Session
