import CacheTelemetry.Proofs.Session.Quiet
import CacheTelemetry.Session.Run

/-!
# What a scrape relays

A scrape that returns relays what the registry holds, and nothing else: **each family has one sample
for each entry of the roster that has counts to give**, in the order of the roster, with the name
that the entry was made under for its label and the count unchanged (`collect_relays_counts`).

The walk turns to the entries one after the other, and each has its *moment*: the address that was
read, and the state in which it had been read. If the answers of the registry change no state, that
state decides what becomes of the entry (`exists_moments`). If the collector is steady all moments
look alike, and the samples are a function of the roster and of the outlook at the beginning
(`Moments.filterMap_eq`).
-/

namespace CacheTelemetry

namespace Collector

open Effect

variable {σ κ χ : Type} [BEq κ] {c : Collector σ κ χ} {s t t' : σ}

/-- The moments at which a walk from a state turns to the entries: the addresses that are read, and
the states after that. -/
inductive Moments (c : Collector σ κ χ) :
    List (Value κ × χ) → σ → List (Value κ × σ) → Prop where
  | nil {s : σ} : Moments c [] s []
  | cons {e : Value κ × χ} {rest : List (Value κ × χ)} {s : σ} {moment : Value κ × σ}
    {moments : List (Value κ × σ)}
    (read : (c.managerUri e.2).runFrom s = (.ok moment.1, moment.2))
    (others : Moments c rest ((c.visit e.1 e.2).runFrom s).2 moments) :
    Moments c (e :: rest) s (moment :: moments)

/-- The counts that an entry has to give at a moment. -/
def countsAt? (c : Collector σ κ χ) (e : Value κ × χ) (moment : Value κ × σ) : Option Counts :=
  ((c.outlook moment.2).withUri moment.1).counts? e

/-- Each entry has its moment, which decides whether there is a reading of it. -/
theorem exists_moments (answers : ∀ u, c.Reached s u → c.AnswersPurely u)
    (reached : c.Reached s t) {entries : List (Value κ × χ)} {readings : List (Reading κ)}
    (h : (c.visitAll entries).runFrom t = (.ok readings, t')) :
    ∃ moments, c.Moments entries t moments ∧
      readings = (entries.zip moments).filterMap fun p =>
        (c.countsAt? p.1 p.2).map (Reading.mk p.1.1) := by
  induction entries generalizing t readings with
  | nil =>
    cases h
    exact ⟨[], .nil, rfl⟩
  | cons e rest ih =>
    obtain ⟨outcome, t₁, others, hv, hrest, hreadings⟩ := visitAll_cons_eq_ok h
    obtain ⟨moments, turns, hothers⟩ := ih ((reached.visit e.1 e.2).after hv) hrest
    obtain ⟨n, u, hn, -⟩ := bind_eq_ok_iff.1 hv
    obtain ⟨uri, hu, -⟩ := nameFor_eq_ok_iff.1 hn
    have pure : c.AnswersPurely u := answers u ((reached.managerUri e.2).after hu)
    refine ⟨(uri, u) :: moments, .cons hu (by rwa [hv]), ?_⟩
    -- what the registry answers at `u` it answers throughout the visit
    have sampled : ∀ k, c.countsAt? e (uri, u) = some k ↔ outcome = .sampled k := by
      intro k
      rw [countsAt?, Outlook.counts?_eq_some_iff]
      constructor
      · intro gives
        have := (pure.visit_eq_sampled_iff hu).2 ⟨gives, rfl⟩
        cases hv.symm.trans this
        rfl
      · rintro rfl
        exact ((pure.visit_eq_sampled_iff hu).1 hv).1
    rcases hreadings with ⟨k, hk, rfl⟩ | ⟨unsampled, rfl⟩
    · rw [hothers, List.zip_cons_cons, List.filterMap_cons, (sampled k).2 hk]
      rfl
    · have none : c.countsAt? e (uri, u) = none := by
        refine Option.eq_none_iff_forall_ne_some.2 fun k hk => ?_
        exact unsampled k ((sampled k).1 hk)
      rw [hothers, List.zip_cons_cons, List.filterMap_cons, none]
      rfl

/-- From a steady state it makes no difference at what moment the walk turns to an entry. -/
theorem Moments.filterMap_eq {α : Type} (steady : c.Steady s) (reached : c.Reached s t)
    {entries : List (Value κ × χ)} {moments : List (Value κ × σ)}
    (h : c.Moments entries t moments) (f : Value κ → Counts → α) :
    ((entries.zip moments).filterMap fun p => (c.countsAt? p.1 p.2).map (f p.1.1)) =
      entries.filterMap fun e => ((c.outlook s).counts? e).map (f e.1) := by
  induction h with
  | nil => rfl
  | @cons e rest t moment moments read others ih =>
    have later : c.Reached s moment.2 := (reached.managerUri e.2).after read
    have address : (c.outlook s).uri e.2 = .ok moment.1 := by
      rw [← steady t reached]
      exact congrArg Prod.fst read
    have counts : c.countsAt? e moment = (c.outlook s).counts? e := by
      rw [countsAt?, steady _ later, Outlook.counts?_withUri address]
    rw [List.zip_cons_cons, List.filterMap_cons, List.filterMap_cons, counts,
      ih (reached.visit e.1 e.2)]

/-- A scrape does not ask a cache for its name. -/
theorem collect_setCacheName (c : Collector σ κ χ) (cacheName : χ → Effect σ (Value κ)) (s : σ) :
    { c with cacheName := cacheName }.collect.runFrom s = c.collect.runFrom s := by
  have alike : Simulates { c with cacheName := cacheName } c Eq :=
    { settings := by rintro s _ rfl; rfl
      managerUri := by rintro s _ rfl x; exact ⟨rfl, rfl⟩
      isRegistered := by rintro s _ rfl n; exact ⟨rfl, rfl⟩
      readAttribute := by rintro s _ rfl n st; exact ⟨rfl, rfl⟩
      wording := by rintro s _ rfl w; exact ⟨rfl, rfl⟩
      log := by rintro s _ rfl record; rfl }
  obtain ⟨outcome, state⟩ := alike.collect (s := s) rfl rfl
  exact Prod.ext outcome state

/-- **A scrape that returns relays the counts of the entries that have counts to give**, and no
others: at the moment of each entry if reading addresses has effects, and at the beginning if the
collector is steady. The name that a cache gives itself during the scrape has no bearing on it. -/
theorem collect_relays_counts (answers : ∀ u, c.Reached s u → c.AnswersPurely u)
    {families : List (Family κ)} (returned : c.collect.runFrom s = (.ok families, t)) :
    families.map Family.statistic = Statistic.all ∧
      (∃ moments, c.Moments (c.roster s).entries s moments ∧
        ∀ f ∈ families, f.samples = ((c.roster s).entries.zip moments).filterMap fun p =>
          (c.countsAt? p.1 p.2).map fun k => (p.1.1, k.get f.statistic)) ∧
      (c.Steady s → ∀ f ∈ families, f.samples = (c.roster s).entries.filterMap fun e =>
        ((c.outlook s).counts? e).map fun k => (e.1, k.get f.statistic)) ∧
      ∀ cacheName, { c with cacheName := cacheName }.collect.runFrom s = c.collect.runFrom s := by
  obtain ⟨readings, hreadings, rfl⟩ := collect_eq_ok_iff.1 returned
  obtain ⟨moments, turns, hmoments⟩ := exists_moments answers .start hreadings
  have samples : ∀ f ∈ Family.allOf readings,
      f.samples = ((c.roster s).entries.zip moments).filterMap fun p =>
        (c.countsAt? p.1 p.2).map fun k => (p.1.1, k.get f.statistic) := by
    intro f hf
    obtain ⟨st, -, rfl⟩ := List.mem_map.1 hf
    simp only [Family.ofReadings, hmoments, List.map_filterMap, Option.map_map]
    rfl
  refine ⟨rfl, ⟨moments, turns, samples⟩, ?_, fun cacheName => collect_setCacheName c cacheName s⟩
  intro steady f hf
  rw [samples f hf]
  exact turns.filterMap_eq steady .start fun label k => (label, k.get f.statistic)

open Session in
/-- Three caches: one with statistics, one whose name is a pattern, and one without statistics. -/
def threeCaches : World :=
  worldAfter
    [.newBean "bean" .stored [("CacheHits", .int 1180591620717411303424), ("CacheMisses", .int 1),
        ("CacheGets", .int 2), ("CachePuts", .int 3), ("CacheEvictions", .int (-4)),
        ("CacheRemovals", .int 5)],
      .registerBean .main
        (.text "javax.cache:type=CacheStatistics,CacheManager=m,Cache=a.b") "bean",
      .newCache "first" (.text "a,b") (.text "m"),
      .newCache "second" (.text "a*") (.text "m"),
      .newCache "third" (.text "c") (.text "m"),
      .addCache "main" "third",
      .addCache "main" "first",
      .addCache "main" "second"]
    default

/-- The samples of three caches, of which one has statistics. -/
theorem collect_relays_counts_threeCaches :
    ∃ families t, (Session.collector 0).collect.runFrom threeCaches = (.ok families, t) ∧
      ∀ f ∈ families, (f.samples.map fun sample => (sample.1.plain, sample.2)) =
        [("a,b", (⟨1180591620717411303424, 1, 2, 3, -4, 5⟩ : Counts).get f.statistic)] := by
  obtain ⟨families, t, returned⟩ := exists_of_isOk
    (r := (Session.collector 0).collect.runFrom threeCaches) (by decide +kernel)
  have quiet : threeCaches.isQuiet = true := by decide +kernel
  have entries : (((Session.collector 0).roster threeCaches).entries.map fun e =>
      (e.1.plain, ((Session.collector 0).outlook threeCaches).counts? e)) =
        [("c", none), ("a,b", some ⟨1180591620717411303424, 1, 2, 3, -4, 5⟩), ("a*", none)] := by
    decide +kernel
  have steady : (Session.collector 0).Steady threeCaches := Session.steady_of_isQuiet quiet 0
  obtain ⟨-, -, samples, -⟩ := collect_relays_counts
    (fun _ reached => Session.answersPurely_of_isQuiet quiet reached) returned
  refine ⟨families, t, returned, fun f hf => ?_⟩
  have plain := congrArg (List.filterMap fun p : String × Option Counts =>
    p.2.map fun k => (p.1, k.get f.statistic)) entries
  rw [List.filterMap_map] at plain
  rw [samples steady f hf, List.map_filterMap]
  simp only [Option.map_map]
  exact plain

end Collector

end CacheTelemetry
