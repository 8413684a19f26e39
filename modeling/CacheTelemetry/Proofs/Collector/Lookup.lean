import CacheTelemetry.Metric.Registry
import CacheTelemetry.Proofs.Collector.Labels

/-!
# Looking up samples

A look-up takes the first sample with a metric name and a label. The labels of a scrape are keys of
the roster, which differ from each other, and no two of its families have one metric. Hence
**a look-up in a scrape is unambiguous**: what it gives is the value of the only sample with the
label in the family of the metric (`samples_of_label`).
-/

namespace CacheTelemetry

/-- If a test holds for one item at most, the items that pass are the one that is found. -/
theorem filter_eq_toList_find? {α : Type} {test : α → Bool} {l : List α}
    (once : l.Pairwise fun a b => ¬ (test a = true ∧ test b = true)) :
    l.filter test = (l.find? test).toList := by
  induction l with
  | nil => rfl
  | cons a rest ih =>
    obtain ⟨alone, later⟩ := List.pairwise_cons.1 once
    by_cases h : test a = true
    · have none : rest.filter test = [] :=
        List.filter_eq_nil_iff.2 fun b hb passed => alone b hb ⟨h, passed⟩
      rw [List.filter_cons_of_pos h, none, List.find?_cons_of_pos h]
      rfl
    · rw [List.filter_cons_of_neg h, ih later, List.find?_cons_of_neg h]

/-- Of the six families of a list of readings, a look-up sees the one of its metric. -/
theorem sampleValue_allOf {κ : Type} [BEq κ] (readings : List (Reading κ)) (st : Statistic)
    (label : String) :
    sampleValue (Family.allOf readings) st.metricName label =
      ((Family.ofReadings readings st).samples.find? fun s => s.1 == .text label).map Prod.snd := by
  have only : (Family.allOf readings).filter (fun f => f.statistic.metricName == st.metricName) =
      [Family.ofReadings readings st] := by
    have named : Statistic.all.filter (fun st' => st'.metricName == st.metricName) = [st] := by
      cases st <;> decide
    rw [Family.allOf, List.filter_map]
    exact congrArg (List.map (Family.ofReadings readings)) named
  rw [sampleValue, only, List.findSome?_singleton]
  rfl

namespace Collector

variable {σ κ χ : Type} [BEq κ] {c : Collector σ κ χ} {s t : σ}

/-- The samples with a label in the family of a metric are what a look-up gives. -/
theorem samples_of_label {families : List (Family κ)}
    (returned : c.collect.runFrom s = (.ok families, t)) (st : Statistic) (label : String) :
    ∀ f ∈ families, f.statistic = st →
      f.samples.filter (fun sample => sample.1 == .text label) =
        (sampleValue families st.metricName label).toList.map fun i => (.text label, i) := by
  obtain ⟨readings, walk, rfl⟩ := collect_eq_ok_iff.1 returned
  intro f hf hst
  obtain ⟨st', -, rfl⟩ := List.mem_map.1 hf
  cases (show st' = st from hst)
  -- no two samples have the label, since no two keys of the roster are equal
  have distinct : (readings.map Reading.label).Pairwise fun a b => (a == b) = false :=
    (List.pairwise_map.2 (c.roster s).distinct).sublist (labels_sublist walk)
  have once : (Family.ofReadings readings st).samples.Pairwise fun a b =>
      ¬ ((a.1 == .text label) = true ∧ (b.1 == .text label) = true) := by
    refine List.pairwise_map.2 ((List.pairwise_map.1 distinct).imp ?_)
    rintro a b differ ⟨ha, hb⟩
    rw [show a.label = .text label from eq_text_of_beq ha,
      show b.label = .text label from eq_text_of_beq hb] at differ
    exact absurd (differ.symm.trans (beq_self_eq_true label)) (by decide)
  rw [filter_eq_toList_find? once, sampleValue_allOf]
  rcases Option.eq_none_or_eq_some ((Family.ofReadings readings st).samples.find? fun sample =>
    sample.1 == .text label) with absent | ⟨⟨v, i⟩, found⟩
  · rw [absent]
    rfl
  · have named : (v == .text label) = true := by simpa using List.find?_some found
    rw [found, eq_text_of_beq named]
    rfl

end Collector

end CacheTelemetry
