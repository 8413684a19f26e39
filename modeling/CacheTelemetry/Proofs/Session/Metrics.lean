import CacheTelemetry.Proofs.Collector.Lookup
import CacheTelemetry.Proofs.Session.Exporter

/-!
# Metrics registries in a session

The metrics registries of a session hold collectors of caches only, and these all describe the same
names. So each registry holds one collector at most (`worldAfter_holdsOneAtMost`), and whether a
further one is taken depends on nothing else.

Collectors are registered by what they describe. **Registering one is blind to the rest of the
world**: in every world with the same metrics registries, and whatever the steps in scripts come to,
it has the same outcome and changes nothing but the metrics registries. A look-up in a registry
scrapes the collector that it holds, and is unambiguous (`registries_blind_and_unambiguous`).
-/

namespace CacheTelemetry.Session

open Effect

variable {perform : Performer} {w : World} {p : Place} {id : String}

/-- Every metrics registry holds one collector at most, with the names of all collectors of
caches. -/
def World.HoldsOneAtMost (w : World) : Prop := ∀ id, (w.metricsRegistry id).HoldsOneAtMost

/-- A registry that took a collector holds this one. -/
theorem World.HoldsOneAtMost.insert (h : w.HoldsOneAtMost) {r : MetricsRegistry Place}
    (granted : (w.metricsRegistry id).register p (Collector.describe : List (Family Callable)) =
      .ok r) :
    { w with metrics := w.metrics.insert id r }.HoldsOneAtMost := by
  intro id'
  by_cases other : id' = id
  · subst other
    rw [metricsRegistry_insert_self]
    obtain ⟨-, rfl⟩ := (h id').register_eq_ok_iff.1 granted
    exact .inr ⟨p, rfl⟩
  · rw [metricsRegistry_insert_of_ne w other]
    exact h id'

theorem turnsKeep_holdsOneAtMost : TurnsKeep World.HoldsOneAtMost := by
  intro w v h turn
  cases turn with
  | aside metrics _ _ _ =>
    intro id
    rw [World.metricsRegistry, metrics]
    exact h id
  | register granted => exact h.insert granted
  | share _ granted => exact h.insert granted

/-- In a session every metrics registry holds one collector at most. -/
theorem worldAfter_holdsOneAtMost (settings : Settings) (surroundings : Surroundings)
    (steps : List Step) : (worldAfter steps (.start settings surroundings)).HoldsOneAtMost :=
  worldAfter_of_turnsKeep turnsKeep_holdsOneAtMost steps fun _ => .inl rfl

/-! ### Registering -/

/-- An empty registry takes a collector. -/
theorem execute_register_of_empty (one : (w.metricsRegistry id).HoldsOneAtMost)
    (empty : (w.metricsRegistry id).collectors = []) {collector : String}
    (known : w.collectorIds.get? collector = some p) :
    (execute perform (.register collector id)).runFrom w =
      (.ok (.flag true), { w with metrics := w.metrics.insert id ⟨[(p, seriesNames)]⟩ }) := by
  have granted : (w.metricsRegistry id).register p (Collector.describe : List (Family Callable)) =
      .ok ⟨[(p, seriesNames)]⟩ :=
    one.register_eq_ok_iff.2 ⟨List.map_eq_nil_iff.1 empty, rfl⟩
  have run := runFrom_register id p w
  rw [granted] at run
  rw [execute, runFrom_bind_of_ok (runFrom_collectorPlace known), runFrom_bind_of_ok run]
  rfl

/-- A registry that holds a collector refuses another one. -/
theorem execute_register_of_held (one : (w.metricsRegistry id).HoldsOneAtMost)
    (held : (w.metricsRegistry id).collectors ≠ []) {collector : String}
    (known : w.collectorIds.get? collector = some p) :
    ∃ names, (execute perform (.register collector id)).runFrom w =
      (.error (.takenSeries names), w) := by
  have run := runFrom_register id p w
  rcases outcome : (w.metricsRegistry id).register p (Collector.describe : List (Family Callable))
    with f | r
  · obtain ⟨names, rfl⟩ := MetricsRegistry.exists_takenSeries_of_error outcome
    rw [outcome] at run
    refine ⟨names, ?_⟩
    rw [execute, runFrom_bind_of_ok (runFrom_collectorPlace known), runFrom_bind_of_error run]
  · have none := (one.register_eq_ok_iff.1 outcome).1
    exact absurd (List.map_eq_nil_iff.2 none) held

/-! ### Looking up -/

/-- Scraping a registry with one collector is scraping the collector. -/
theorem runFrom_collectMetrics_of_singleton (held : (w.metricsRegistry id).collectors = [p]) :
    (collectMetrics perform id).runFrom w = (collectorIn perform p).collect.runFrom w := by
  rw [collectMetrics, runFrom_get_bind, held, MetricsRegistry.collectAll]
  rcases run : (collectorIn perform p).collect.runFrom w with ⟨f | families, v⟩
  · rw [runFrom_bind_of_error run]
  · rw [runFrom_bind_of_ok run]
    exact congrArg (fun l => (Except.ok l, v)) (List.append_nil families)

/-- A look-up in a registry without collectors finds nothing. -/
theorem execute_sampleValue_of_empty (empty : (w.metricsRegistry id).collectors = [])
    (metric label : String) :
    (execute perform (.sampleValue id metric label)).runFrom w = (.ok (.sample none), w) := by
  have run : (collectMetrics perform id).runFrom w = (.ok [], w) := by
    rw [collectMetrics, runFrom_get_bind, empty]
    rfl
  rw [execute, runFrom_bind_of_ok run]
  rfl

/-- A look-up fails as the scrape of the only collector does. -/
theorem execute_sampleValue_of_error {f : Fault} {v : World}
    (held : (w.metricsRegistry id).collectors = [p])
    (failed : (collectorIn perform p).collect.runFrom w = (.error f, v)) (metric label : String) :
    (execute perform (.sampleValue id metric label)).runFrom w = (.error f, v) :=
  runFrom_bind_of_error ((runFrom_collectMetrics_of_singleton held).trans failed) _

/-- A look-up is made in what the scrape of the only collector returns. -/
theorem execute_sampleValue_of_ok {families : List (Family Callable)} {v : World}
    (held : (w.metricsRegistry id).collectors = [p])
    (returned : (collectorIn perform p).collect.runFrom w = (.ok families, v))
    (metric label : String) :
    (execute perform (.sampleValue id metric label)).runFrom w =
      (.ok (.sample (sampleValue families metric label)), v) :=
  runFrom_bind_of_ok ((runFrom_collectMetrics_of_singleton held).trans returned) _

/-! ### Runs -/

/-- **Registering is blind, and look-ups are unambiguous.** A metrics registry of a session holds
one collector at most. In every world with the same metrics registries, registering a collector
succeeds exactly if the registry holds none, and changes nothing but this registry; it fails without
a trace. A look-up finds nothing in an empty registry; otherwise it fails as the scrape of the
collector fails, or gives the value of the only sample with the label in the family of the
metric. -/
theorem registries_blind_and_unambiguous (settings : Settings) (surroundings : Surroundings)
    (steps : List Step) (id : String) :
    let w := worldAfter steps (.start settings surroundings)
    let held := (w.metricsRegistry id).collectors
    held.length ≤ 1 ∧
    (∀ (perform : Performer) (u : World) (collector : String) (p : Place),
      u.metrics = w.metrics → u.collectorIds.get? collector = some p →
      let run := (execute perform (.register collector id)).runFrom u
      (held = [] → ∃ r, run = (.ok (.flag true), { u with metrics := u.metrics.insert id r }) ∧
        r.collectors = [p]) ∧
      (held ≠ [] → ∃ names, run = (.error (.takenSeries names), u))) ∧
    ∀ (perform : Performer) (st : Statistic) (label : String),
      let run := (execute perform (.sampleValue id st.metricName label)).runFrom w
      (held = [] → run = (.ok (.sample none), w)) ∧
      ∀ p, held = [p] →
        (∀ f v, (collectorIn perform p).collect.runFrom w = (.error f, v) → run = (.error f, v)) ∧
        ∀ families v, (collectorIn perform p).collect.runFrom w = (.ok families, v) →
          families.map Family.statistic = Statistic.all ∧
          ∃ value, run = (.ok (.sample value), v) ∧ ∀ f ∈ families, f.statistic = st →
            f.samples.filter (fun sample => sample.1 == .text label) =
              value.toList.map fun i => (.text label, i) := by
  intro w held
  have one : (w.metricsRegistry id).HoldsOneAtMost :=
    worldAfter_holdsOneAtMost settings surroundings steps id
  refine ⟨one.length_collectors_le, fun perform u collector p same known => ?_,
    fun perform st label => ?_⟩
  · have registry : u.metricsRegistry id = w.metricsRegistry id := by
      rw [World.metricsRegistry, same]
      rfl
    rw [← registry] at one
    refine ⟨fun empty => ⟨_, execute_register_of_empty one (registry ▸ empty) known, rfl⟩, ?_⟩
    exact fun some => execute_register_of_held one (registry ▸ some) known
  · refine ⟨fun empty => execute_sampleValue_of_empty empty _ _, fun p single => ?_⟩
    refine ⟨fun f v failed => execute_sampleValue_of_error single failed _ _,
      fun families v returned => ?_⟩
    obtain ⟨readings, -, families_eq⟩ := Collector.collect_eq_ok_iff.1 returned
    have six : families.map Family.statistic = Statistic.all := by
      rw [families_eq, Family.map_statistic_allOf]
    exact ⟨six, _, execute_sampleValue_of_ok single returned _ _,
      Collector.samples_of_label returned st label⟩

/-- A session in which a cache with statistics has been added to a collector, and the collector has
been registered in a metrics registry. -/
def meteredSession : List Step :=
  [.newBean "bean" .stored (Statistic.all.map fun st => (st.attrName, .int 7)),
    .registerBean .main (.text "javax.cache:type=CacheStatistics,CacheManager=m,Cache=a") "bean",
    .newCache "cache" (.text "a") (.text "m"),
    .addCache mainId "cache",
    .register mainId "spare"]

/-- The world after it. -/
def meteredWorld : World := worldAfter meteredSession default

/-- The registry refuses the collector when it is registered again, and a look-up gives the value of
the one sample of the cache. -/
theorem registries_blind_and_unambiguous_meteredWorld :
    (∃ names, (execute nested (.register mainId "spare")).runFrom meteredWorld =
      (.error (.takenSeries names), meteredWorld)) ∧
    ∃ families v value, (collectorIn nested 0).collect.runFrom meteredWorld = (.ok families, v) ∧
      (execute nested (.sampleValue "spare" Statistic.hits.metricName "a")).runFrom meteredWorld =
        (.ok (.sample value), v) ∧
      ∀ f ∈ families, f.statistic = .hits →
        f.samples.filter (fun sample => sample.1 == .text "a") =
          value.toList.map fun i => (.text "a", i) := by
  obtain ⟨-, registering, looking⟩ :=
    registries_blind_and_unambiguous .standard default meteredSession "spare"
  have held : (meteredWorld.metricsRegistry "spare").collectors = [0] := by decide +kernel
  obtain ⟨families, v, returned⟩ := exists_of_isOk
    (r := (collectorIn nested 0).collect.runFrom meteredWorld) (by decide +kernel)
  obtain ⟨-, value, run, samples⟩ := ((looking nested .hits "a").2 0 held).2 families v returned
  refine ⟨(registering nested meteredWorld mainId 0 rfl (by decide +kernel)).2 ?_, ?_⟩
  · exact fun empty => List.cons_ne_nil 0 [] (held.symm.trans empty)
  · exact ⟨families, v, value, returned, run, samples⟩

end CacheTelemetry.Session
