import CacheTelemetry.Proofs.Collector.Visit

/-!
# The faults of a scrape

A scrape ends at the first visit that fails (`collect_eq_error_iff`, `visitAll_eq_error_iff`). A
visit fails over the address of its cache, over the name that is composed of it, or over the
statistics if the failure is not isolated (`visit_eq_error_iff`). The look for statistics is taken
apart in `readStatistics_eq_error_iff`.

An address is asked for without a guard, so **a fault of an address that is asked for ends the
scrape, as it is** (`AsksAddress.collect_eq_error`).
-/

namespace CacheTelemetry

namespace Collector

open Effect

variable {σ κ χ : Type} [BEq κ] {c : Collector σ κ χ} {s t : σ} {f : Fault}

/-- In a scrape from `s` the address of the cache of an entry is asked for in the state `u`: the
caches before it have been visited. -/
def AsksAddress (c : Collector σ κ χ) (s : σ) (e : Value κ × χ) (u : σ) : Prop :=
  ∃ before after readings, (c.roster s).entries = before ++ e :: after ∧
    (c.visitAll before).runFrom s = (.ok readings, u)

/-! ### Faults of a visit -/

/-- Naming fails over the address, or over a name that cannot be composed of it. -/
theorem nameFor_eq_error_iff {label : Value κ} {cache : χ} :
    (c.nameFor label cache).runFrom s = (.error f, t) ↔
      (c.managerUri cache).runFrom s = (.error f, t) ∨
        ∃ uri, (c.managerUri cache).runFrom s = (.ok uri, t) ∧
          (c.settings t).nameOf uri label = .error f := by
  rw [nameFor_eq, bind_eq_error_iff]
  refine or_congr_right ⟨?_, ?_⟩
  · rintro ⟨uri, u, read, composed⟩
    rw [runFrom_get_bind, runFrom_ofExcept] at composed
    obtain ⟨failed, rfl⟩ := Prod.mk.inj composed
    exact ⟨uri, read, failed⟩
  · rintro ⟨uri, read, composed⟩
    refine ⟨uri, t, read, ?_⟩
    rw [runFrom_get_bind, runFrom_ofExcept, composed]

/-- A failure that is not isolated is raised again. -/
theorem handleFailure_eq_error_iff {label : Value κ} {n : ObjectName} {g : Fault} :
    (c.handleFailure label n g).runFrom s = (.error f, t) ↔
      f = g ∧ t = s ∧
        ¬ (g.kind = .statisticsRead ∧ (c.settings s).isolateFailures = true) := by
  rw [handleFailure, runFrom_get_bind]
  split
  · rename_i isolated
    have skipped : ∀ record, ((do modify (c.log record); return Visit.skipped) :
        Effect σ Visit).runFrom s ≠ (.error f, t) := fun record h => by cases h
    exact iff_of_false (skipped _) fun h => h.2.2 isolated
  · rename_i kept
    rw [runFrom_throw]
    constructor
    · rintro ⟨⟩
      exact ⟨rfl, rfl, kept⟩
    · rintro ⟨rfl, rfl, -⟩
      rfl

/-- Once the name is composed, a visit fails over the statistics if failures are not isolated. -/
theorem visit_eq_error_iff_of_nameFor {label : Value κ} {cache : χ} {n : ObjectName} {u : σ}
    (named : (c.nameFor label cache).runFrom s = (.ok n, u)) :
    (c.visit label cache).runFrom s = (.error f, t) ↔
      (c.readStatistics n).runFrom u = (.error f, t) ∧
        ¬ (f.kind = .statisticsRead ∧ (c.settings t).isolateFailures = true) := by
  rw [runFrom_visit named]
  rcases (c.readStatistics n).runFrom u with ⟨g | _ | k, v⟩
  · dsimp only
    rw [handleFailure_eq_error_iff]
    constructor
    · rintro ⟨rfl, rfl, kept⟩
      exact ⟨rfl, kept⟩
    · rintro ⟨⟨⟩, kept⟩
      exact ⟨rfl, rfl, kept⟩
  · simp
  · simp

/-- A visit fails over the address of its cache, over its name, or over its statistics if failures
are not isolated. -/
theorem visit_eq_error_iff {label : Value κ} {cache : χ} :
    (c.visit label cache).runFrom s = (.error f, t) ↔
      (c.nameFor label cache).runFrom s = (.error f, t) ∨
        ∃ n u, (c.nameFor label cache).runFrom s = (.ok n, u) ∧
          (c.readStatistics n).runFrom u = (.error f, t) ∧
          ¬ (f.kind = .statisticsRead ∧ (c.settings t).isolateFailures = true) := by
  rcases hn : (c.nameFor label cache).runFrom s with ⟨g | n, u⟩
  · rw [visit, runFrom_bind_of_error hn]
    simp
  · rw [visit_eq_error_iff_of_nameFor hn]
    constructor
    · rintro ⟨failed, kept⟩
      exact .inr ⟨n, u, rfl, failed, kept⟩
    · rintro (failed | ⟨n', u', named, failed, kept⟩)
      · cases failed
      · cases named
        exact ⟨failed, kept⟩

/-! ### Faults of a scrape -/

/-- A walk fails exactly at the first visit that does. -/
theorem visitAll_eq_error_iff {entries : List (Value κ × χ)} :
    (c.visitAll entries).runFrom s = (.error f, t) ↔
      ∃ before e after readings u, entries = before ++ e :: after ∧
        (c.visitAll before).runFrom s = (.ok readings, u) ∧
        (c.visit e.1 e.2).runFrom u = (.error f, t) := by
  constructor
  · intro h
    -- the visits before the one that fails are gathered from the front
    induction entries generalizing s with
    | nil => cases h
    | cons e rest ih =>
      rcases bind_eq_error_iff.1 h with failed | ⟨outcome, u, visited, h⟩
      · exact ⟨[], e, rest, [], s, rfl, rfl, failed⟩
      · rcases bind_eq_error_iff.1 h with failed | ⟨readings, v, -, ended⟩
        · obtain ⟨before, e', after, readings, v, rfl, walked, failed⟩ := ih failed
          have first : ∃ all, (c.visitAll (e :: before)).runFrom s = (.ok all, v) := by
            rw [visitAll, runFrom_bind_of_ok visited, runFrom_bind_of_ok walked]
            cases outcome <;> exact ⟨_, rfl⟩
          obtain ⟨all, walked⟩ := first
          exact ⟨e :: before, e', after, all, v, rfl, walked, failed⟩
        · cases outcome <;> cases ended
  · rintro ⟨before, e, after, readings, u, rfl, walked, failed⟩
    rw [visitAll_append, runFrom_bind_of_ok walked, visitAll]
    exact runFrom_bind_of_error (runFrom_bind_of_error failed _) _

/-- A scrape fails exactly if the walk over the roster does. -/
theorem collect_eq_error_iff :
    c.collect.runFrom s = (.error f, t) ↔
      (c.visitAll (c.roster s).entries).runFrom s = (.error f, t) := by
  rw [runFrom_collect]
  rcases (c.visitAll (c.roster s).entries).runFrom s with ⟨g | readings, u⟩ <;> simp [Except.map]

/-- A visit that fails ends the scrape in which the address is asked for. -/
theorem AsksAddress.collect_eq_error_of_visit {e : Value κ × χ} {u : σ}
    (asked : c.AsksAddress s e u) (failed : (c.visit e.1 e.2).runFrom u = (.error f, t)) :
    c.collect.runFrom s = (.error f, t) := by
  obtain ⟨before, after, readings, entries, walked⟩ := asked
  exact collect_eq_error_iff.2
    (visitAll_eq_error_iff.2 ⟨before, e, after, readings, u, entries, walked, failed⟩)

/-- A scrape fails exactly if the visit of an entry does, whose address it came to ask for. -/
theorem collect_eq_error_iff_visit :
    c.collect.runFrom s = (.error f, t) ↔
      ∃ e u, c.AsksAddress s e u ∧ (c.visit e.1 e.2).runFrom u = (.error f, t) := by
  refine ⟨fun ended => ?_, fun ⟨e, u, asked, failed⟩ => asked.collect_eq_error_of_visit failed⟩
  obtain ⟨before, e, after, readings, u, entries, walked, failed⟩ :=
    visitAll_eq_error_iff.1 (collect_eq_error_iff.1 ended)
  exact ⟨e, u, ⟨before, after, readings, entries, walked⟩, failed⟩

/-- A fault of an address that is asked for ends the scrape, as it is. -/
theorem AsksAddress.collect_eq_error {e : Value κ × χ} {u : σ} (asked : c.AsksAddress s e u)
    (fault : (c.managerUri e.2).runFrom u = (.error f, t)) :
    c.collect.runFrom s = (.error f, t) :=
  asked.collect_eq_error_of_visit
    (visit_eq_error_iff.2 (.inl (nameFor_eq_error_iff.2 (.inl fault))))

end Collector

end CacheTelemetry
