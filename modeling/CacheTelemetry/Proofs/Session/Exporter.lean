import CacheTelemetry.Proofs.Metric.Registry
import CacheTelemetry.Proofs.OrderedMap
import CacheTelemetry.Proofs.Session.Turns

/-!
# The collector of the process

The collector of the process, the metrics registry of the process and the registry of beans that
the collector reads come into being with the first call that asks for the collector, or fails to get
one. They stay consistent whatever else is registered, in whatever order, and however deep in
scripts the calls are made: **there is one exporter** (`one_exporter`). A call that returns gives
out the collector that owns the names in the metrics registry of the process, every later call gives
out the same one and changes nothing, and a call that fails changes nothing either.

The world may start with anything in its metrics registries, only not with a collector of the
process.
-/

namespace CacheTelemetry.Session

open Effect

variable {w v : World} {p q : Place}

/-- The collector is on the shelf and reads the registry of the process, and is the one owner of the
names of the six metrics in the metrics registry of the process. -/
structure World.IsExporter (w : World) (p : Place) : Prop where
  platform : (w.collectors.map CollectorState.registry)[p]? = some .platform
  owner : ∀ (st : Statistic) (q : Place),
    (w.metricsRegistry defaultMetrics).Owns q st.metricName ↔ q = p

/-- If there is a collector of the process, it is the exporter. -/
def World.HasExporterOnly (w : World) : Prop := ∀ p, w.shared = some p → w.IsExporter p

/-! ### Metrics registries of a world -/

theorem metricsRegistry_insert_self (w : World) (id : String) (r : MetricsRegistry Place) :
    { w with metrics := w.metrics.insert id r }.metricsRegistry id = r := by
  rw [World.metricsRegistry, OrderedMap.get?_insert_self _ (beq_self_eq_true id)]
  rfl

theorem metricsRegistry_insert_of_ne (w : World) {id id' : String} (h : id' ≠ id)
    (r : MetricsRegistry Place) :
    { w with metrics := w.metrics.insert id r }.metricsRegistry id' = w.metricsRegistry id' := by
  rw [World.metricsRegistry, OrderedMap.get?_insert_of_ne _ h]
  rfl

/-- The names are taken in the metrics registry of the process once there is an exporter. -/
theorem World.IsExporter.not_register (h : w.IsExporter p) (r : MetricsRegistry Place) :
    (w.metricsRegistry defaultMetrics).register q (Collector.describe : List (Family Callable)) ≠
      .ok r := by
  intro granted
  refine (MetricsRegistry.register_eq_ok_iff.1 granted).1 Statistic.hits.metricName
    (metricName_mem_seriesNames _) ?_
  exact MetricsRegistry.mem_taken_iff.2 ⟨p, (h.owner .hits p).2 rfl⟩

/-! ### Turns -/

/-- An exporter stays the exporter. -/
theorem World.IsExporter.turn (h : w.IsExporter p) (turn : w.Turn v) : v.IsExporter p := by
  refine ⟨turnsKeep_platform p h.platform turn, ?_⟩
  cases turn with
  | aside metrics _ _ _ =>
    rw [World.metricsRegistry, metrics]
    exact h.owner
  | @register id q r granted =>
    by_cases other : defaultMetrics = id
    · subst other
      exact absurd granted (h.not_register r)
    · rw [metricsRegistry_insert_of_ne w other]
      exact h.owner
  | share unshared granted => exact absurd granted (h.not_register _)

/-- A collector of the process that is new is the exporter. -/
theorem isExporter_share {r : MetricsRegistry Place}
    (granted : (w.metricsRegistry defaultMetrics).register w.collectors.length
      (Collector.describe : List (Family Callable)) = .ok r) :
    (w.share r).IsExporter w.collectors.length := by
  refine ⟨?_, fun st q => ?_⟩
  · simp [World.share, World.placeShared, World.log]
  · have registry : (w.share r).metricsRegistry defaultMetrics = r :=
      metricsRegistry_insert_self w defaultMetrics r
    -- nobody owned the name before
    have free : ¬ (w.metricsRegistry defaultMetrics).Owns q st.metricName := fun owns =>
      (MetricsRegistry.register_eq_ok_iff.1 granted).1 st.metricName
        (metricName_mem_seriesNames st) (MetricsRegistry.mem_taken_iff.2 ⟨q, owns⟩)
    rw [registry, MetricsRegistry.owns_of_register granted, or_iff_right free,
      flatMap_claimedNames_describe, and_iff_left (metricName_mem_seriesNames st)]

/-- Turns keep the collector of the process, and keep it the exporter. -/
theorem turnsKeep_exporter (p : Place) :
    TurnsKeep fun w => w.shared = some p ∧ w.IsExporter p := by
  rintro w v ⟨shared, exporter⟩ turn
  refine ⟨?_, exporter.turn turn⟩
  cases turn with
  | aside _ same _ _ => rw [same, shared]
  | register _ => exact shared
  | share unshared _ =>
    rw [shared] at unshared
    cases unshared

/-- Turns make nothing else than the exporter the collector of the process. -/
theorem turnsKeep_hasExporterOnly : TurnsKeep World.HasExporterOnly := by
  intro w v only turn p shared
  cases turn with
  | aside metrics same registries served =>
    exact (only p (same ▸ shared)).turn (.aside metrics same registries served)
  | register granted => exact (only p shared).turn (.register granted)
  | share unshared granted =>
    cases shared
    exact isExporter_share granted

/-! ### Calls -/

/-- A call gives out the collector of the process that is there, and changes nothing. -/
theorem runFrom_sharedCollector_of_shared (h : w.shared = some p) :
    sharedCollector.runFrom w = (.ok p, w) := by
  rw [runFrom_sharedCollector, h]

/-- What a call gives out is the collector of the process from then on. -/
theorem shared_of_sharedCollector (run : sharedCollector.runFrom w = (.ok p, v)) :
    v.shared = some p := by
  rw [runFrom_sharedCollector] at run
  split at run
  · rename_i held
    cases run
    exact held
  · split at run <;> cases run
    rfl

/-- A call fails exactly if there is no collector of the process and a new one is refused, and
changes nothing then. -/
theorem sharedCollector_eq_error_iff {f : Fault} :
    sharedCollector.runFrom w = (.error f, v) ↔ v = w ∧ w.shared = none ∧
      (w.metricsRegistry defaultMetrics).register w.collectors.length
        (Collector.describe : List (Family Callable)) = .error f := by
  rw [runFrom_sharedCollector]
  constructor
  · intro run
    split at run
    · cases run
    · rename_i unshared
      split at run <;> cases run
      rename_i refused
      exact ⟨rfl, unshared, refused⟩
  · rintro ⟨rfl, unshared, refused⟩
    rw [unshared, refused]

/-- A step that asks for the collector of the process makes the call, and gives the collector an
identifier. -/
theorem runFrom_registered (w : World) :
    registered.runFrom w =
      match sharedCollector.runFrom w with
      | (.ok p, v) =>
        (.ok (.shared (w.shared.map fun q => decide (q = p)) (v.collectorAt p).roster.size),
          { v with collectorIds := v.collectorIds.insert sharedId p })
      | (.error f, v) => (.error f, v) := by
  rw [registered, runFrom_get_bind]
  rcases run : sharedCollector.runFrom w with ⟨f | p, v⟩
  · rw [runFrom_bind_of_error run]
  · rw [runFrom_bind_of_ok run]
    rfl

/-- Where there is a collector of the process, a step that asks for it finds the one that was given
before. -/
theorem reportOn_registered_of_shared (h : w.shared = some p) :
    (reportOn .registered w).2.metrics = w.metrics ∧
      ∃ size, (reportOn .registered w).1.outcome = .ok (.shared (some true) size) := by
  have run := runFrom_registered { w with journal := [] }
  rw [runFrom_sharedCollector_of_shared (w := { w with journal := [] }) h] at run
  have report : (perform .registered).runFrom { w with journal := [] } =
      registered.runFrom { w with journal := [] } := rfl
  rw [reportOn, report, run]
  refine ⟨rfl, (w.collectorAt p).roster.size, ?_⟩
  simp [h, World.collectorAt]

/-! ### Runs -/

/-- **There is one exporter.** Let steps of any sort have been performed. If a call that asks for
the collector of the process returns, then after any further steps what it gave out is the exporter,
and a call gives it out again and changes nothing. If there is a collector of the process, it is the
exporter. A call fails exactly if there is none and another collector owns one of the names; it
changes nothing then, and there is still none. -/
theorem one_exporter (start : World) (unshared : start.shared = none) (steps : List Step) :
    let w := worldAfter steps start
    (∀ p v, sharedCollector.runFrom w = (.ok p, v) → ∀ later, let u := worldAfter later v
      u.IsExporter p ∧ sharedCollector.runFrom u = (.ok p, u) ∧
        (reportOn .registered u).2.metrics = u.metrics ∧
        ∃ size, (reportOn .registered u).1.outcome = .ok (.shared (some true) size)) ∧
    (∀ p, w.shared = some p → w.IsExporter p) ∧
    ((∃ f, (sharedCollector.runFrom w).1 = .error f) ↔ w.shared = none ∧
      ∃ name ∈ seriesNames, ∃ q, (w.metricsRegistry defaultMetrics).Owns q name) ∧
    ∀ f v, sharedCollector.runFrom w = (.error f, v) →
      v = w ∧ v.shared = none ∧ ∃ names, f = .takenSeries names := by
  intro w
  have only : w.HasExporterOnly := by
    refine worldAfter_of_turnsKeep turnsKeep_hasExporterOnly steps fun p shared => ?_
    rw [unshared] at shared
    cases shared
  refine ⟨fun p v run later => ?_, only, ?_, fun f v run => ?_⟩
  · -- the call itself is a sequence of turns, and the exporter stays the exporter in all others
    have kept : v.HasExporterOnly :=
      (keeps_sharedCollector turnsKeep_hasExporterOnly).after only run
    have given : v.shared = some p := shared_of_sharedCollector run
    obtain ⟨held, exporter⟩ : (worldAfter later v).shared = some p ∧
        (worldAfter later v).IsExporter p :=
      worldAfter_of_turnsKeep (turnsKeep_exporter p) later ⟨given, kept p given⟩
    exact ⟨exporter, runFrom_sharedCollector_of_shared held, reportOn_registered_of_shared held⟩
  · have failed : (∃ f, (sharedCollector.runFrom w).1 = .error f) ↔
        ∃ f v, sharedCollector.runFrom w = (.error f, v) :=
      exists_congr fun f => ⟨fun h => ⟨_, Prod.ext h rfl⟩, fun ⟨_, h⟩ => congrArg Prod.fst h⟩
    rw [failed]
    simp only [sharedCollector_eq_error_iff, exists_and_left, exists_eq_left]
    rw [MetricsRegistry.register_eq_error_iff, flatMap_claimedNames_describe]
    simp only [MetricsRegistry.mem_taken_iff]
  · obtain ⟨rfl, unshared, refused⟩ := sharedCollector_eq_error_iff.1 run
    exact ⟨rfl, unshared, MetricsRegistry.exists_takenSeries_of_error refused⟩

/-- A session in which the first call for the collector of the process fails, since another
collector is registered already. -/
def lateSession : List Step :=
  [.register "main" "spare", .register "main" defaultMetrics, .registered]

/-- The collector that is registered already keeps the process without an exporter; without it, the
first call gives out the exporter. -/
theorem one_exporter_lateSession :
    (∃ f, (sharedCollector.runFrom (worldAfter lateSession default)).1 = .error f) ∧
      (worldAfter (lateSession.take 1 ++ [.registered]) default).IsExporter 1 := by
  refine ⟨(one_exporter default rfl lateSession).2.2.1.2 ⟨by decide +kernel, ?_⟩, ?_⟩
  · exact ⟨Statistic.hits.metricName, by decide, 0, seriesNames, by decide +kernel, by decide⟩
  · exact (one_exporter default rfl _).2.1 1 (by decide +kernel)

end CacheTelemetry.Session
