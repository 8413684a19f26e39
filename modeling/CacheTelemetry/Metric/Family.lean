import CacheTelemetry.Effect
import CacheTelemetry.Metric.Statistic

/-!
# Metric families

A family holds the samples of one statistic, one sample for each cache. Families are made from
*readings*: the label of a cache with all its counts. Hence all families of a list of readings have
the same labels in the same order.
-/

namespace CacheTelemetry

/-- The counts of a cache and the label that it goes by. -/
structure Reading (κ : Type) where
  label : Value κ
  counts : Counts

/-- A sample: the label of a cache and one count. -/
abbrev Sample (κ : Type) := Value κ × Int

/-- The samples of one statistic. -/
structure Family (κ : Type) where
  statistic : Statistic
  samples : List (Sample κ)

namespace Family

variable {κ : Type}

/-- The family of a statistic with the samples that the readings give. -/
def ofReadings (readings : List (Reading κ)) (s : Statistic) : Family κ :=
  ⟨s, readings.map fun r => (r.label, r.counts.get s)⟩

/-- The six families of a list of readings. -/
def allOf (readings : List (Reading κ)) : List (Family κ) :=
  Statistic.all.map (ofReadings readings)

/-- The six families without samples. -/
def blank : List (Family κ) := allOf []

/-- The labels of a family in order. -/
def labels (f : Family κ) : List (Value κ) := f.samples.map Prod.fst

/-- The names that a family takes up in a metrics registry. -/
def claimedNames (f : Family κ) : List String :=
  [f.statistic.familyName, f.statistic.metricName, f.statistic.familyName ++ "_created"]

/-- A family has a sample for every reading, under its label. -/
theorem labels_ofReadings (readings : List (Reading κ)) (s : Statistic) :
    (ofReadings readings s).labels = readings.map Reading.label := by
  simp [labels, ofReadings]

/-- The families of a list of readings, by their statistics. -/
theorem map_statistic_allOf (readings : List (Reading κ)) :
    (allOf readings).map Family.statistic = Statistic.all := rfl

end Family

end CacheTelemetry
