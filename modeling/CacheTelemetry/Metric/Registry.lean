import CacheTelemetry.Metric.Family

/-!
# Metrics registries

A metrics registry holds the collectors that are scraped together, of some type `γ`. Each metric
name belongs to one collector: registering a collector claims the names of the families that it
describes, and fails without effect if one of them is taken. Registering does not scrape.
-/

namespace CacheTelemetry

/-- Collectors in the order of their registration, with the names that they claimed. -/
structure MetricsRegistry (γ : Type) where
  members : List (γ × List String)
  deriving Inhabited

namespace MetricsRegistry

variable {γ κ : Type}

/-- The registry without collectors. -/
def empty : MetricsRegistry γ := ⟨[]⟩

instance : EmptyCollection (MetricsRegistry γ) := ⟨empty⟩

/-- The collectors in order. -/
def collectors (r : MetricsRegistry γ) : List γ := r.members.map Prod.fst

/-- The names that are taken. -/
def taken (r : MetricsRegistry γ) : List String := r.members.flatMap Prod.snd

/-- Adds a collector that describes the given families. -/
def register (r : MetricsRegistry γ) (collector : γ) (described : List (Family κ)) :
    Except Fault (MetricsRegistry γ) :=
  let names := described.flatMap Family.claimedNames
  if names.any fun n => n ∈ r.taken then .error (.takenSeries (names.filter fun n => n ∈ r.taken))
  else .ok ⟨r.members ++ [(collector, names)]⟩

/-- The families of all collectors, scraped one after the other. -/
def collectAll {σ : Type} (collect : γ → Effect σ (List (Family κ))) :
    List γ → Effect σ (List (Family κ))
  | [] => return []
  | c :: rest => do
    let families ← collect c
    let others ← collectAll collect rest
    return families ++ others

end MetricsRegistry

/-- The first sample with a metric name and a label. -/
def sampleValue {κ : Type} [BEq κ] (families : List (Family κ)) (metric label : String) :
    Option Int :=
  (families.filter fun f => f.statistic.metricName == metric).findSome? fun f =>
    (f.samples.find? fun s => s.1.sameKey (.text label)).map Prod.snd

end CacheTelemetry
