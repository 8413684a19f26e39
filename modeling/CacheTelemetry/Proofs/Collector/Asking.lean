import CacheTelemetry.Proofs.Collector.Faults
import CacheTelemetry.Proofs.Collector.Simulation

/-!
# What a scrape asks for

Where in a scrape the registry is asked, and which answers have been given before that. A scrape
*asks about* a name when the caches before are visited and the name is composed (`AsksAbout`); it
*asks for a count* when the name is no pattern, is answered as registered, and the counts before are
read (`AsksCount`).

Each of these questions may fail, and if the failure is not isolated it ends the scrape as it is
(`AsksCount.collect_eq_error`). In turn **a scrape fails over nothing but what it asks for**
(`collect_eq_error_iff_asked`).
-/

namespace CacheTelemetry

namespace Collector

open Effect

variable {σ κ χ : Type} [BEq κ] {c : Collector σ κ χ} {s t u : σ} {n : ObjectName}
  {st : Statistic} {f : Fault}

/-! ### Questions -/

/-- A scrape from `s` looks for statistics under the name `n` from the state `u` on: the caches
before have been visited, and the name is composed. -/
def AsksAbout (c : Collector σ κ χ) (s : σ) (n : ObjectName) (u : σ) : Prop :=
  ∃ e v, c.AsksAddress s e v ∧ (c.nameFor e.1 e.2).runFrom v = (.ok n, u)

/-- A scrape from `s` asks in the state `u` for a count under the name `n`, which is no pattern and
has been answered as registered. -/
def AsksCount (c : Collector σ κ χ) (s : σ) (n : ObjectName) (st : Statistic) (u : σ) : Prop :=
  ∃ v answer w, c.AsksAbout s n v ∧ n.isPattern = false ∧
    (c.isRegistered n).runFrom v = (.ok answer, w) ∧ answer.truth = true ∧ c.ComesTo n st w u

/-! ### Failures -/

/-- A look for statistics that fails ends the scrape, unless failures are isolated. -/
theorem AsksAbout.collect_eq_error (asked : c.AsksAbout s n u)
    (failed : (c.readStatistics n).runFrom u = (.error f, t))
    (kept : ¬ (f.kind = .statisticsRead ∧ (c.settings t).isolateFailures = true)) :
    c.collect.runFrom s = (.error f, t) := by
  obtain ⟨e, v, address, named⟩ := asked
  exact address.collect_eq_error_of_visit ((visit_eq_error_iff_of_nameFor named).2 ⟨failed, kept⟩)

/-- A count that is not read ends the scrape, unless failures are isolated. -/
theorem AsksCount.collect_eq_error (asked : c.AsksCount s n st u)
    (failed : (c.readCount n st).runFrom u = (.error f, t))
    (kept : ¬ (f.kind = .statisticsRead ∧ (c.settings t).isolateFailures = true)) :
    c.collect.runFrom s = (.error f, t) := by
  obtain ⟨v, answer, w, about, pattern, registered, truth, comes⟩ := asked
  refine about.collect_eq_error (readStatistics_eq_error_iff.2 ⟨pattern, .inr ?_⟩) kept
  exact ⟨answer, w, st, u, registered, truth, comes, failed⟩

/-- **A scrape fails exactly over one of the things that it asks for**: a name that is to be
composed, or one of the questions to the registry, if the failure is not isolated. -/
theorem collect_eq_error_iff_asked :
    c.collect.runFrom s = (.error f, t) ↔
      (∃ e u, c.AsksAddress s e u ∧ (c.nameFor e.1 e.2).runFrom u = (.error f, t)) ∨
        ¬ (f.kind = .statisticsRead ∧ (c.settings t).isolateFailures = true) ∧
          ((∃ n u, c.AsksAbout s n u ∧ n.isPattern = false ∧
              (c.hasStatistics n).runFrom u = (.error f, t)) ∨
            ∃ n st u, c.AsksCount s n st u ∧ (c.readCount n st).runFrom u = (.error f, t)) := by
  constructor
  · intro ended
    obtain ⟨e, u, asked, failed⟩ := collect_eq_error_iff_visit.1 ended
    rcases visit_eq_error_iff.1 failed with unnamed | ⟨n, v, named, failed, kept⟩
    · exact .inl ⟨e, u, asked, unnamed⟩
    have about : c.AsksAbout s n v := ⟨e, u, asked, named⟩
    refine .inr ⟨kept, ?_⟩
    obtain ⟨pattern, failed | ⟨answer, w, st, x, registered, truth, comes, failed⟩⟩ :=
      readStatistics_eq_error_iff.1 failed
    · exact .inl ⟨n, v, about, pattern, failed⟩
    · exact .inr ⟨n, st, x, ⟨v, answer, w, about, pattern, registered, truth, comes⟩, failed⟩
  · rintro (⟨e, u, asked, unnamed⟩ | ⟨kept, ⟨n, u, about, pattern, failed⟩ |
      ⟨n, st, u, asked, failed⟩⟩)
    · exact asked.collect_eq_error_of_visit (visit_eq_error_iff.2 (.inl unnamed))
    · exact about.collect_eq_error (readStatistics_eq_error_iff.2 ⟨pattern, .inl failed⟩) kept
    · exact asked.collect_eq_error failed kept

/-! ### The states of the questions -/

theorem ComesTo.reached (comes : c.ComesTo n st t u) (h : c.Reached s t) : c.Reached s u := by
  obtain ⟨before, -, is, -, read⟩ := comes
  induction before generalizing t is with
  | nil =>
    cases read
    exact h
  | cons first rest ih =>
    rw [List.mapM_cons] at read
    obtain ⟨i, v, first_read, read⟩ := bind_eq_ok_iff.1 read
    obtain ⟨is, w, read, ended⟩ := bind_eq_ok_iff.1 read
    cases ended
    refine ih (h := ?_) is read
    exact (h.readAttribute n first).after (readCount_eq_ok_iff.1 first_read)

theorem AsksAbout.reached (asked : c.AsksAbout s n u) : c.Reached s u := by
  obtain ⟨⟨label, cache⟩, v, ⟨before, after, readings, -, walked⟩, named⟩ := asked
  obtain ⟨uri, read, -⟩ := nameFor_eq_ok_iff.1 named
  exact (((Reached.start.visitAll before).after walked).managerUri cache).after read

/-- The questions of a scrape are asked in states that it reaches. -/
theorem AsksCount.reached (asked : c.AsksCount s n st u) : c.Reached s u := by
  obtain ⟨v, answer, w, about, -, registered, -, comes⟩ := asked
  exact comes.reached ((about.reached.isRegistered n).after registered)

end Collector

end CacheTelemetry
