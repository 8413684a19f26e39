import CacheTelemetry.Proofs.Collector.Simulation
import CacheTelemetry.Proofs.Collector.Visit

/-!
# Walks over entries

What a walk that returns tells about its entries, and what its readings tell about the walk: **each
entry is visited in some state of the walk and leaves its reading if it is sampled
(`exists_visit_of_mem`), and each reading was left by such a visit
(`exists_visit_of_mem_readings`)**. The foreign code may do anything to the state meanwhile.
-/

namespace CacheTelemetry

namespace Collector

open Effect

variable {σ κ χ : Type} [BEq κ] {c : Collector σ κ χ} {s t : σ}
  {entries : List (Value κ × χ)} {readings : List (Reading κ)}

/-- Each count is read in some state of the scrape. -/
theorem Reads.exists_reached {n : ObjectName} {get : Statistic → Int} {sts : List Statistic}
    {u v : σ} (h : c.Reads n get sts u v) (reached : c.Reached s u) :
    ∀ st ∈ sts, ∃ w w', c.Reached s w ∧
      (c.readAttribute n st.attrName).runFrom w = (.ok (.int (get st)), w') := by
  induction h with
  | nil => simp
  | @cons first rest u _ _ read _ ih =>
    refine List.forall_mem_cons.2 ⟨⟨u, _, reached, read⟩, ?_⟩
    exact ih ((reached.readAttribute n first).after read)

/-- Each entry is visited, and leaves its reading if it is sampled. -/
theorem exists_visit_of_mem (h : (c.visitAll entries).runFrom s = (.ok readings, t))
    {e : Value κ × χ} (he : e ∈ entries) :
    ∃ outcome u v, c.Reached s u ∧ (c.visit e.1 e.2).runFrom u = (.ok outcome, v) ∧
      ∀ k, outcome = .sampled k → ⟨e.1, k⟩ ∈ readings := by
  induction entries generalizing s readings with
  | nil => cases he
  | cons first rest ih =>
    obtain ⟨outcome, s', others, hv, hrest, hreadings⟩ := visitAll_cons_eq_ok h
    rcases List.mem_cons.1 he with rfl | he
    · refine ⟨outcome, s, s', .start, hv, ?_⟩
      rintro k rfl
      rcases hreadings with ⟨_, ⟨⟩, rfl⟩ | ⟨unsampled, -⟩
      · exact List.mem_cons_self
      · exact absurd rfl (unsampled k)
    · obtain ⟨outcome', u, v, reached, hv', left⟩ := ih hrest he
      have onwards : c.Reached s s' := (Reached.start.visit first.1 first.2).after hv
      refine ⟨outcome', u, v, onwards.trans reached, hv', fun k hk => ?_⟩
      rcases hreadings with ⟨_, -, rfl⟩ | ⟨-, rfl⟩
      · exact List.mem_cons_of_mem _ (left k hk)
      · exact left k hk

/-- Each reading was left by the visit of an entry with its label, and the walk went on from
there. -/
theorem exists_visit_of_mem_readings (h : (c.visitAll entries).runFrom s = (.ok readings, t))
    {r : Reading κ} (hr : r ∈ readings) :
    ∃ e ∈ entries, e.1 = r.label ∧ ∃ u v, c.Reached s u ∧
      (c.visit e.1 e.2).runFrom u = (.ok (.sampled r.counts), v) ∧ c.Reached v t := by
  induction entries generalizing s readings with
  | nil =>
    cases h
    cases hr
  | cons first rest ih =>
    obtain ⟨outcome, s', others, hv, hrest, hreadings⟩ := visitAll_cons_eq_ok h
    have onwards : c.Reached s s' := (Reached.start.visit first.1 first.2).after hv
    have later : r ∈ others → ∃ e ∈ first :: rest, e.1 = r.label ∧ ∃ u v, c.Reached s u ∧
        (c.visit e.1 e.2).runFrom u = (.ok (.sampled r.counts), v) ∧ c.Reached v t := by
      intro hr
      obtain ⟨e, he, label, u, v, reached, hv', final⟩ := ih hrest hr
      exact ⟨e, List.mem_cons_of_mem _ he, label, u, v, onwards.trans reached, hv', final⟩
    rcases hreadings with ⟨k, rfl, rfl⟩ | ⟨-, rfl⟩
    · rcases List.mem_cons.1 hr with rfl | hr
      · have final : c.Reached s' t := (Reached.start.visitAll rest).after hrest
        exact ⟨first, List.mem_cons_self, rfl, s, s', .start, hv, final⟩
      · exact later hr
    · exact later hr

end Collector

end CacheTelemetry
