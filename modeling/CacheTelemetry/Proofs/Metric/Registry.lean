import CacheTelemetry.Collector.Basic
import CacheTelemetry.Metric.Registry

/-!
# Names in metrics registries

Registering a collector succeeds exactly if none of the names that it describes is taken, and makes
it an owner of these names (`register_eq_ok_iff`, `owns_of_register`). All collectors of caches
describe the same names, `seriesNames`: **of these collectors a registry takes one**
(`HoldsOneAtMost.register_eq_ok_iff`).
-/

namespace CacheTelemetry

/-- The names that a collector of caches describes, and claims. -/
def seriesNames : List String :=
  (Collector.describe : List (Family Empty)).flatMap Family.claimedNames

theorem flatMap_claimedNames_describe {κ : Type} :
    (Collector.describe : List (Family κ)).flatMap Family.claimedNames = seriesNames := rfl

/-- The names of the six metrics are among them. -/
theorem metricName_mem_seriesNames (st : Statistic) : st.metricName ∈ seriesNames := by
  cases st <;> decide

namespace MetricsRegistry

variable {γ κ : Type} {r r' : MetricsRegistry γ} {c d : γ} {described : List (Family κ)}
  {name : String} {f : Fault}

/-- The collector has claimed a name. -/
def Owns (r : MetricsRegistry γ) (c : γ) (name : String) : Prop :=
  ∃ names, (c, names) ∈ r.members ∧ name ∈ names

/-- A name is taken if some collector has claimed it. -/
theorem mem_taken_iff : name ∈ r.taken ↔ ∃ c, r.Owns c name := by
  simp only [taken, Owns, List.mem_flatMap, Prod.exists]

/-- Registering succeeds exactly if no described name is taken, and adds the collector. -/
theorem register_eq_ok_iff :
    r.register c described = .ok r' ↔
      (∀ name ∈ described.flatMap Family.claimedNames, name ∉ r.taken) ∧
        r' = ⟨r.members ++ [(c, described.flatMap Family.claimedNames)]⟩ := by
  rw [register]
  split
  · rename_i clash
    obtain ⟨name, mem, taken⟩ := List.any_eq_true.1 clash
    refine iff_of_false (by rintro ⟨⟩) fun h => h.1 name mem (of_decide_eq_true taken)
  · rename_i free
    have free' : ∀ name ∈ described.flatMap Family.claimedNames, name ∉ r.taken :=
      fun name mem taken => free (List.any_eq_true.2 ⟨name, mem, decide_eq_true taken⟩)
    rw [and_iff_right free', Except.ok.injEq, eq_comm]

/-- Registering fails exactly if a described name is taken. -/
theorem register_eq_error_iff :
    (∃ f, r.register c described = .error f) ↔
      ∃ name ∈ described.flatMap Family.claimedNames, name ∈ r.taken := by
  rw [register]
  split
  · rename_i clash
    obtain ⟨name, mem, taken⟩ := List.any_eq_true.1 clash
    exact iff_of_true ⟨_, rfl⟩ ⟨name, mem, of_decide_eq_true taken⟩
  · rename_i free
    refine iff_of_false (by rintro ⟨f, ⟨⟩⟩) ?_
    rintro ⟨name, mem, taken⟩
    exact free (List.any_eq_true.2 ⟨name, mem, decide_eq_true taken⟩)

/-- A refused collector is told of the names that are taken. -/
theorem exists_takenSeries_of_error (h : r.register c described = .error f) :
    ∃ names, f = .takenSeries names := by
  rw [register] at h
  split at h <;> cases h
  exact ⟨_, rfl⟩

/-- The new collector owns the names that it describes; nothing else changes hands. -/
theorem owns_of_register (h : r.register c described = .ok r') :
    r'.Owns d name ↔ r.Owns d name ∨ d = c ∧ name ∈ described.flatMap Family.claimedNames := by
  obtain ⟨-, rfl⟩ := register_eq_ok_iff.1 h
  constructor
  · rintro ⟨names, mem, hname⟩
    rcases List.mem_append.1 mem with old | new
    · exact .inl ⟨names, old, hname⟩
    · cases List.mem_singleton.1 new
      exact .inr ⟨rfl, hname⟩
  · rintro (⟨names, mem, hname⟩ | ⟨rfl, hname⟩)
    · exact ⟨names, List.mem_append_left _ mem, hname⟩
    · exact ⟨_, List.mem_append_right _ (List.mem_singleton_self _), hname⟩

/-! ### Registries of collectors of caches -/

/-- A registry that holds collectors of caches only, and one of them at most. -/
def HoldsOneAtMost (r : MetricsRegistry γ) : Prop :=
  r.members = [] ∨ ∃ c, r.members = [(c, seriesNames)]

theorem HoldsOneAtMost.length_collectors_le (one : r.HoldsOneAtMost) :
    r.collectors.length ≤ 1 := by
  rcases one with empty | ⟨c, single⟩
  · simp [collectors, empty]
  · simp [collectors, single]

/-- A collector of caches is taken exactly by an empty registry, and is alone in it then. -/
theorem HoldsOneAtMost.register_eq_ok_iff (one : r.HoldsOneAtMost) :
    r.register c (Collector.describe : List (Family κ)) = .ok r' ↔
      r.members = [] ∧ r' = ⟨[(c, seriesNames)]⟩ := by
  rw [MetricsRegistry.register_eq_ok_iff, flatMap_claimedNames_describe]
  rcases one with empty | ⟨d, held⟩
  · simp [taken, empty]
  · refine iff_of_false (fun h => ?_) (by simp [held])
    refine h.1 Statistic.hits.metricName (metricName_mem_seriesNames _) ?_
    exact mem_taken_iff.2 ⟨d, seriesNames, by simp [held], metricName_mem_seriesNames _⟩

end MetricsRegistry

end CacheTelemetry
