import CacheTelemetry.Proofs.Collector.Trace
import CacheTelemetry.Proofs.Collector.Walk
import CacheTelemetry.Session.Run

/-!
# The labels of a scrape

Reads of foreign code may change the very roster that is being scraped, take a bean out of the
registry between two of its attributes, change the settings, or begin another scrape. Whatever they
do, **a scrape that returns has a whole set of samples for each of its labels**: all families have
the same labels, these are names of the roster as it was at the beginning, in its order and without
repeats, and the six values of a label were read in this scrape, one after the other and under one
object name (`collect_labels_consistent`).

The walk over the caches is described by two facts about the readings that it returns: their labels
are among those of the caches (`labels_sublist`), and each has its block among the calls
(`exists_block_of_mem`), of which nothing is known but that they are noted one after the other.
-/

namespace CacheTelemetry

namespace Collector

open Effect

variable {σ κ χ : Type} [BEq κ] {c : Collector σ κ χ} {s t : σ}

/-- A cache gives one reading or none, so the labels of the readings are some of those of the
caches, in their order. -/
theorem labels_sublist {entries : List (Value κ × χ)} {readings : List (Reading κ)}
    (h : (c.visitAll entries).runFrom s = (.ok readings, t)) :
    (readings.map Reading.label).Sublist (entries.map Prod.fst) := by
  induction entries generalizing s readings with
  | nil =>
    cases h
    exact List.Sublist.slnil
  | cons e rest ih =>
    obtain ⟨outcome, s', others, -, hrest, ⟨k, -, rfl⟩ | ⟨-, rfl⟩⟩ := visitAll_cons_eq_ok h
    · exact (ih hrest).cons_cons e.1
    · exact (ih hrest).cons e.1

/-- The counts of a sampled cache were read one after the other, under a name that was composed for
its label. -/
theorem exists_block_of_visit {label : Value κ} {cache : χ} {k : Counts}
    {p q : σ × List (RegistryCall κ)}
    (h : (c.traced.visit label cache).runFrom p = (.ok (.sampled k), q)) :
    ∃ n, (∃ (settings : Settings) (uri : Value κ), settings.nameOf uri label = .ok n) ∧
      countCalls n k.get Statistic.all <:+ q.2 := by
  obtain ⟨n, p₁, hn, hr⟩ := visit_eq_sampled_iff.1 h
  obtain ⟨uri, -, hname⟩ := nameFor_eq_ok_iff.1 hn
  obtain ⟨-, answer, p₂, -, -, reads⟩ := readStatistics_eq_some_iff.1 hr
  refine ⟨n, ⟨_, uri, hname⟩, ?_⟩
  rw [reads.calls_eq]
  exact List.suffix_append _ _

/-- Each reading has its block among the calls of the walk. -/
theorem exists_block_of_mem {entries : List (Value κ × χ)} {readings : List (Reading κ)}
    {p q : σ × List (RegistryCall κ)}
    (h : (c.traced.visitAll entries).runFrom p = (.ok readings, q)) {r : Reading κ}
    (hr : r ∈ readings) :
    ∃ n, (∃ (settings : Settings) (uri : Value κ), settings.nameOf uri r.label = .ok n) ∧
      countCalls n r.counts.get Statistic.all <:+: q.2 := by
  obtain ⟨e, -, label, p', q', -, hv, later⟩ := exists_visit_of_mem_readings h hr
  obtain ⟨n, hn, block⟩ := exists_block_of_visit hv
  rw [label] at hn
  -- the calls of the caches that follow are noted behind the block
  exact ⟨n, hn, block.isInfix.trans later.calls_prefix.isInfix⟩

/-- Only a text is equal to a text as a key. -/
theorem eq_text_of_beq {v : Value κ} {name : String} (h : (v == .text name) = true) :
    v = .text name := by
  cases v with
  | text t => rw [eq_of_beq (show (t == name) = true from h)]
  | _ => cases h

/-- Keys are texts if each of them is the same key as its plain form. -/
theorem exists_text_of_all_keys {m : Roster κ χ}
    (h : (m.keys.all fun key => key.sameKey (.text key.plain)) = true) :
    ∀ key ∈ m.keys, ∃ name, key = .text name := by
  intro key hkey
  have same := List.all_eq_true.1 h key hkey
  cases key <;> first | exact ⟨_, rfl⟩ | cases same

/-- Keys that are texts differ as texts. -/
theorem nodup_of_keys {m : Roster κ χ} {names : List String}
    (h : (names.map Datum.text).Sublist m.keys) : names.Nodup := by
  have distinct : m.keys.Pairwise fun a b => (a == b) = false :=
    List.pairwise_map.2 m.distinct
  refine (List.pairwise_map.1 (distinct.sublist h)).imp fun {a b} hab => ?_
  rintro rfl
  exact absurd (hab.symm.trans (beq_self_eq_true a)) (by decide)

/-- Keys that are texts are distinct texts. -/
theorem exists_texts_of_keys {m : Roster κ χ} (names : ∀ key ∈ m.keys, ∃ name, key = .text name) :
    ∃ labels : List String, m.keys = labels.map Datum.text ∧ labels.Nodup := by
  have texts : (m.keys.map Value.plain).map Datum.text = m.keys := by
    rw [List.map_map]
    refine (List.map_congr_left fun key hkey => ?_).trans (List.map_id _)
    obtain ⟨name, rfl⟩ := names key hkey
    rfl
  exact ⟨_, texts.symm, nodup_of_keys (m := m) (by simp only [texts, List.Sublist.refl])⟩

/-- **A scrape that returns has whole sets of samples**, whatever the reads made during it do. -/
theorem collect_labels_consistent (c : Collector σ κ χ) {s t : σ} {families : List (Family κ)}
    (names : ∀ key ∈ (c.roster s).keys, ∃ name, key = .text name)
    (returned : c.collect.runFrom s = (.ok families, t)) :
    families.map Family.statistic = Statistic.all ∧
      ∃ labels : List String,
        (∀ f ∈ families, f.labels = labels.map Datum.text) ∧
        labels.Nodup ∧
        (labels.map Datum.text).Sublist (c.roster s).keys ∧
        ∀ label ∈ labels, ∃ (n : ObjectName) (k : Counts),
          (∃ (settings : Settings) (uri : Value κ), settings.nameOf uri (.text label) = .ok n) ∧
          countCalls n k.get Statistic.all <:+: c.calls s ∧
          ∀ f ∈ families, (.text label, k.get f.statistic) ∈ f.samples := by
  obtain ⟨readings, hreadings, rfl⟩ := collect_eq_ok_iff.1 returned
  have sublist : (readings.map Reading.label).Sublist (c.roster s).keys := labels_sublist hreadings
  -- all labels are keys, hence texts
  have texts : (readings.map fun r => r.label.plain).map Datum.text =
      readings.map Reading.label := by
    rw [List.map_map]
    refine List.map_congr_left fun r hr => ?_
    obtain ⟨name, hname⟩ := names _ (sublist.subset (List.mem_map_of_mem hr))
    simp [hname]
  refine ⟨rfl, readings.map fun r => r.label.plain, ?_, ?_, ?_, ?_⟩
  · intro f hf
    obtain ⟨st, -, rfl⟩ := List.mem_map.1 hf
    rw [Family.labels_ofReadings, texts]
  · exact nodup_of_keys (texts ▸ sublist)
  · exact texts ▸ sublist
  · intro label hlabel
    obtain ⟨r, hr, rfl⟩ := List.mem_map.1 hlabel
    obtain ⟨name, hname⟩ := names _ (sublist.subset (List.mem_map_of_mem hr))
    have traced : (c.traced.visitAll (c.roster s).entries).runFrom (s, []) =
        (.ok readings, t, c.calls s) := by
      rw [traced_visitAll, hreadings]
    obtain ⟨n, hn, block⟩ := exists_block_of_mem traced hr
    have label_eq : Datum.text r.label.plain = r.label := by simp [hname]
    refine ⟨n, r.counts, by rw [label_eq]; exact hn, block, fun f hf => ?_⟩
    obtain ⟨st, -, rfl⟩ := List.mem_map.1 hf
    rw [label_eq]
    exact List.mem_map_of_mem hr

open Session in
/-- A roster of two caches, of which the second clears the roster when its manager is asked for. -/
def clearedWorld : World :=
  worldAfter
    [.newBean "bean" .stored (Statistic.all.map fun st => (st.attrName, .int 7)),
      .registerBean .main
        (.text "javax.cache:type=CacheStatistics,CacheManager=m,Cache=a.b") "bean",
      .newCache "first" (.text "a,b") (.text "m"),
      .newCache "second" (.text "c") (.perform (.clear "main") (.text "m")),
      .addCache "main" "first",
      .addCache "main" "second"]
    default

/-- The labels of a scrape in the course of which the roster is cleared. -/
theorem collect_labels_consistent_cleared :
    ∃ families t, (Session.collector 0).collect.runFrom clearedWorld = (.ok families, t) ∧
      families.map Family.statistic = Statistic.all ∧
      ∃ labels : List String, (∀ f ∈ families, f.labels = labels.map Datum.text) ∧
        labels.Nodup := by
  obtain ⟨families, t, returned⟩ := exists_of_isOk
    (r := (Session.collector 0).collect.runFrom clearedWorld) (by decide +kernel)
  have names : ∀ key ∈ ((Session.collector 0).roster clearedWorld).keys,
      ∃ name, key = .text name := exists_text_of_all_keys (by decide +kernel)
  obtain ⟨statistics, labels, same, nodup, -⟩ :=
    collect_labels_consistent (Session.collector 0) names returned
  exact ⟨families, t, returned, statistics, labels, same, nodup⟩

end Collector

end CacheTelemetry
