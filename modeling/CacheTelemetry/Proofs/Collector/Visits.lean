import CacheTelemetry.Proofs.Collector.Faults
import CacheTelemetry.Proofs.Collector.Trace

/-!
# The visits of a scrape

`Collector.visits c s` are the visits of the scrape from `s`: each entry that the scrape comes to,
with the state in which its visit begins. The entries are those of the roster from the first one on;
all of them are visited by a scrape that returns, and **a scrape that fails ends with the visit that
failed** (`visits_of_error`).

A collector that *notes* something at the end of a list, and does not look at the list, does what it
does without it (`Notes`). **The notes of a scrape are those of its visits, one after the other**
(`Notes.collect`).
-/

namespace CacheTelemetry

namespace Collector

open Effect

variable {σ κ χ γ : Type} [BEq κ] {c : Collector σ κ χ} {s t : σ} {f : Fault}
  {entries : List (Value κ × χ)}

/-- The visits of a walk over entries. A visit begins where the one before it ended, and none
follows one that fails. -/
def visitsFrom (c : Collector σ κ χ) : List (Value κ × χ) → σ → List ((Value κ × χ) × σ)
  | [], _ => []
  | e :: rest, s =>
    (e, s) :: match (c.visit e.1 e.2).runFrom s with
      | (.ok _, t) => c.visitsFrom rest t
      | (.error _, _) => []

/-- The visits of a scrape. -/
def visits (c : Collector σ κ χ) (s : σ) : List ((Value κ × χ) × σ) :=
  c.visitsFrom (c.roster s).entries s

/-! ### Which entries are visited -/

theorem visitsFrom_cons_of_ok {e : Value κ × χ} {v : Visit}
    (visited : (c.visit e.1 e.2).runFrom s = (.ok v, t)) (rest : List (Value κ × χ)) :
    c.visitsFrom (e :: rest) s = (e, s) :: c.visitsFrom rest t := by
  rw [visitsFrom, visited]

theorem visitsFrom_cons_of_error {e : Value κ × χ}
    (failed : (c.visit e.1 e.2).runFrom s = (.error f, t)) (rest : List (Value κ × χ)) :
    c.visitsFrom (e :: rest) s = [(e, s)] := by
  rw [visitsFrom, failed]

/-- The entries are visited in order from the first one on. -/
theorem visitsFrom_prefix (c : Collector σ κ χ) (entries : List (Value κ × χ)) (s : σ) :
    (c.visitsFrom entries s).map Prod.fst <+: entries := by
  induction entries generalizing s with
  | nil => exact List.prefix_rfl
  | cons e rest ih =>
    rcases visited : (c.visit e.1 e.2).runFrom s with ⟨f | v, t⟩
    · rw [visitsFrom_cons_of_error visited]
      exact ⟨rest, rfl⟩
    · rw [visitsFrom_cons_of_ok visited, List.map_cons]
      exact List.cons_prefix_cons.2 ⟨rfl, ih t⟩

/-- A walk that returns has visited all entries. -/
theorem visitsFrom_of_ok {readings : List (Reading κ)}
    (walked : (c.visitAll entries).runFrom s = (.ok readings, t)) :
    (c.visitsFrom entries s).map Prod.fst = entries := by
  induction entries generalizing s readings with
  | nil => rfl
  | cons e rest ih =>
    obtain ⟨v, u, others, visited, walked, -⟩ := visitAll_cons_eq_ok walked
    rw [visitsFrom_cons_of_ok visited, List.map_cons, ih walked]

/-- A walk that fails has ended with a visit that did. -/
theorem visitsFrom_of_error (walked : (c.visitAll entries).runFrom s = (.error f, t)) :
    ∃ before e u, c.visitsFrom entries s = before ++ [(e, u)] ∧
      (c.visit e.1 e.2).runFrom u = (.error f, t) := by
  induction entries generalizing s with
  | nil => cases walked
  | cons e rest ih =>
    rcases bind_eq_error_iff.1 walked with failed | ⟨v, u, visited, walked⟩
    · exact ⟨[], e, s, visitsFrom_cons_of_error failed rest, failed⟩
    · rcases bind_eq_error_iff.1 walked with walked | ⟨_, _, -, ended⟩
      · obtain ⟨before, e', u', others, failed⟩ := ih walked
        exact ⟨(e, s) :: before, e', u', by rw [visitsFrom_cons_of_ok visited, others]; rfl, failed⟩
      · cases v <;> cases ended

/-- Visits begin in states that the walk reaches. -/
theorem reached_of_mem_visitsFrom {r : σ} (h : c.Reached r s) {v : (Value κ × χ) × σ}
    (mem : v ∈ c.visitsFrom entries s) : c.Reached r v.2 := by
  induction entries generalizing s with
  | nil => cases mem
  | cons e rest ih =>
    rcases visited : (c.visit e.1 e.2).runFrom s with ⟨f | outcome, t⟩
    · rw [visitsFrom_cons_of_error visited, List.mem_singleton] at mem
      exact mem ▸ h
    · rw [visitsFrom_cons_of_ok visited, List.mem_cons] at mem
      rcases mem with rfl | mem
      · exact h
      · exact ih ((h.visit e.1 e.2).after visited) mem

/-- A scrape that returns has visited all entries. -/
theorem visits_of_ok {families : List (Family κ)}
    (returned : c.collect.runFrom s = (.ok families, t)) :
    (c.visits s).map Prod.fst = (c.roster s).entries := by
  obtain ⟨readings, walked, -⟩ := collect_eq_ok_iff.1 returned
  exact visitsFrom_of_ok walked

/-- A scrape that fails ends with the visit that failed. -/
theorem visits_of_error (failed : c.collect.runFrom s = (.error f, t)) :
    ∃ before e u, c.visits s = before ++ [(e, u)] ∧
      (c.visit e.1 e.2).runFrom u = (.error f, t) :=
  visitsFrom_of_error (collect_eq_error_iff.1 failed)

/-! ### Notes -/

/-- The states are the same, and one list is the other one behind `q`. -/
def Behind (q : List γ) (p p' : σ × List γ) : Prop := p.1 = p'.1 ∧ p.2 = q ++ p'.2

/-- A computation beside the list does the same in both states. -/
theorem Behind.beside {α : Type} {q : List γ} {p p' : σ × List γ} (h : Behind q p p')
    (x : Effect σ α) : Agree (Behind q) x.beside p x.beside p' := by
  obtain ⟨s, notes⟩ := p
  obtain ⟨rfl, rfl⟩ := h
  exact ⟨rfl, rfl, rfl⟩

/-- A computation that is noted does so too. -/
theorem Behind.noting {α : Type} {q : List γ} {p p' : σ × List γ} (h : Behind q p p')
    (entry : Except Fault α → γ) (x : Effect σ α) :
    Agree (Behind q) (x.noting entry) p (x.noting entry) p' := by
  obtain ⟨s, notes⟩ := p
  obtain ⟨rfl, rfl⟩ := h
  exact ⟨rfl, rfl, List.append_assoc _ _ _⟩

/-- In the states with the property `P` the collector `d` does what `c` does, and it notes something
at the end of a list that it does not look at. -/
structure Notes (d : Collector (σ × List γ) κ χ) (c : Collector σ κ χ) (P : σ → Prop) : Prop where
  roster : ∀ p, d.roster p = c.roster p.1
  erases : Simulates d c fun p s => p.1 = s ∧ P s
  appends : ∀ q, Simulates d d (Behind q)

/-- What is noted in the course of a visit. -/
def notesOf (d : Collector (σ × List γ) κ χ) (e : Value κ × χ) (s : σ) : List γ :=
  ((d.visit e.1 e.2).runFrom (s, [])).2.2

namespace Notes

variable {d : Collector (σ × List γ) κ χ} {P : σ → Prop}

/-- A visit ends as it does without notes, and adds its notes to those that there are. -/
theorem visit (h : Notes d c P) (hs : P s) (e : Value κ × χ) (q : List γ) :
    (d.visit e.1 e.2).runFrom (s, q) =
        (((c.visit e.1 e.2).runFrom s).1, ((c.visit e.1 e.2).runFrom s).2, q ++ d.notesOf e s) ∧
      P ((c.visit e.1 e.2).runFrom s).2 := by
  obtain ⟨outcome, state, property⟩ :=
    h.erases.visit (s := (s, q)) (t := s) ⟨rfl, hs⟩ e.1 e.2
  obtain ⟨-, -, notes⟩ :=
    (h.appends q).visit (s := (s, q)) (t := (s, [])) ⟨rfl, (List.append_nil q).symm⟩ e.1 e.2
  exact ⟨Prod.ext outcome (Prod.ext state notes), property⟩

/-- The notes of a walk are those of its visits. -/
theorem visitAll (h : Notes d c P) (entries : List (Value κ × χ)) (hs : P s) (q : List γ) :
    ((d.visitAll entries).runFrom (s, q)).2.2 =
      q ++ (c.visitsFrom entries s).flatMap fun v => d.notesOf v.1 v.2 := by
  induction entries generalizing s q with
  | nil => exact (List.append_nil q).symm
  | cons e rest ih =>
    obtain ⟨noted, property⟩ := h.visit hs e q
    rcases visited : (c.visit e.1 e.2).runFrom s with ⟨f | v, t⟩ <;> rw [visited] at noted property
    · rw [Collector.visitAll, runFrom_bind_of_error noted, visitsFrom_cons_of_error visited]
      simp
    · -- the walk goes on behind the notes of the visit, whether that has left a reading or not
      have walked : ((d.visitAll (e :: rest)).runFrom (s, q)).2 =
          ((d.visitAll rest).runFrom (t, q ++ d.notesOf e s)).2 := by
        rw [Collector.visitAll, runFrom_bind_of_ok noted]
        cases v <;> exact runFrom_bind_pure_snd _ _ _
      rw [walked, ih property, visitsFrom_cons_of_ok visited, List.flatMap_cons, List.append_assoc]

/-- The notes of a scrape are those of its visits. -/
theorem collect (h : Notes d c P) (hs : P s) :
    (d.collect.runFrom (s, [])).2.2 = (c.visits s).flatMap fun v => d.notesOf v.1 v.2 := by
  rw [runFrom_collect, h.roster]
  exact (h.visitAll (c.roster s).entries hs []).trans (List.nil_append _)

end Notes

end Collector

end CacheTelemetry
