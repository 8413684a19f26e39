import CacheTelemetry.Proofs.Collector.Simulation
import CacheTelemetry.Proofs.Effect.Keeping

/-!
# What a collector keeps

A property of states that is kept by the foreign code that a scrape calls and by the log records is
**kept by scrapes** (`ReadsKeep.collect`). Adding a cache changes the roster after everything in it
that may fail, so a cache that cannot be added leaves what reading its name leaves
(`add_keepsFailing`); removing caches never fails. If putting another roster into the state keeps
the property, all operations keep it.
-/

namespace CacheTelemetry

namespace Collector

open Effect

variable {σ κ χ : Type} [BEq κ] {c : Collector σ κ χ} {P : σ → Prop} {s t : σ}

/-- The foreign code that a scrape calls keeps a property, and so do log records. -/
structure ReadsKeep (c : Collector σ κ χ) (P : σ → Prop) : Prop where
  managerUri : ∀ x, Keeps P (c.managerUri x)
  isRegistered : ∀ n, Keeps P (c.isRegistered n)
  readAttribute : ∀ n (st : Statistic), Keeps P (c.readAttribute n st.attrName)
  wording : ∀ w, Keeps P (c.wording w)
  log : ∀ record s, P s → P (c.log record s)

/-- Asking for a name changes nothing. -/
theorem runFrom_contains_snd (name : Value κ) (s : σ) : ((c.contains name).runFrom s).2 = s := by
  rw [contains]
  split <;> rfl

/-- A scrape leaves a state that it reaches. -/
theorem Reached.collect (c : Collector σ κ χ) (s : σ) : c.Reached s (c.collect.runFrom s).2 :=
  ((Reached.simulates c s).collect (s := s) ⟨rfl, .start⟩ rfl).2.2

/-- Removing the cache with a name never fails. -/
theorem succeeds_remove (name : Option String) : Succeeds (c.remove name) := by
  refine .get_bind fun s => .bind (.modify _) fun _ => ?_
  split
  · exact .bind (.modify _) fun _ => .pure _
  · exact .pure _

/-- Removing all caches never fails. -/
theorem succeeds_clear : Succeeds c.clear := .bind (.modify _) fun _ => .modify _

/-- Reading the name of a cache, once or twice, keeps what a single read keeps. -/
theorem entryName_keeps {cache : χ} (named : Keeps P (c.cacheName cache)) :
    Keeps P (c.entryName cache) := by
  refine named.bind fun name => ?_
  split
  · exact .pure _
  · exact named

/-- A cache that cannot be added fails before the roster is changed. -/
theorem add_keepsFailing [DecidableEq χ] {cache : χ} (named : Keeps P (c.cacheName cache)) :
    KeepsFailing P (c.add cache) := by
  refine (entryName_keeps named).bind_keepsFailing fun name => ?_
  dsimp only
  split
  · exact (Keeps.throw_bind _ _).keepsFailing
  · refine (Succeeds.get_bind fun s => .bind (.modify _) fun _ => ?_).keepsFailing
    split <;> exact .modify _

/-- Looking for statistics keeps what the two questions to the registry and the texts of what comes
back keep. -/
theorem readStatistics_keeps (asked : ∀ n, Keeps P (c.isRegistered n))
    (read : ∀ n (st : Statistic), Keeps P (c.readAttribute n st.attrName))
    (said : ∀ w, Keeps P (c.wording w)) (n : ObjectName) : Keeps P (c.readStatistics n) := by
  have say : ∀ w, Keeps P (c.wording.say w) := Wording.keeps_say said
  have count : ∀ st, Keeps P (c.readCount n st) := fun st => by
    refine ((read n st).wrapErrors fun f => (say _).bind fun _ => .pure _).bind fun v => ?_
    cases v <;> first
      | exact .pure _
      | exact ((say _).bind fun _ => .pure _).bind fun _ => .throw _
  have counts : Keeps P (Counts.readAll (c.readCount n)) :=
    (count _).bind fun _ => (count _).bind fun _ => (count _).bind fun _ => (count _).bind fun _ =>
      (count _).bind fun _ => (count _).bind fun _ => .pure _
  unfold readStatistics
  split
  · exact .pure _
  · have query : Keeps P (c.hasStatistics n) :=
      ((asked n).wrapErrors fun f => (say _).bind fun _ => .pure _).bind fun _ => .pure _
    refine query.bind fun found => ?_
    split
    · exact counts.bind fun _ => .pure _
    · exact .pure _

namespace ReadsKeep

variable (keep : c.ReadsKeep P)

include keep

/-- The states of a scrape have the property. -/
theorem reached (h : P s) (reached : c.Reached s t) : P t := by
  induction reached with
  | start => exact h
  | managerUri _ x ih => exact keep.managerUri x _ ih
  | isRegistered _ n ih => exact keep.isRegistered n _ ih
  | readAttribute _ n st ih => exact keep.readAttribute n st _ ih
  | wording _ w ih => exact keep.wording w _ ih
  | log _ record ih => exact keep.log record _ ih

theorem collect : Keeps P c.collect := fun s h => keep.reached h (.collect c s)

theorem note (message : String) : Keeps P (c.note message) := .modify (keep.log _)

variable (put : ∀ roster s, P s → P (c.setRoster roster s))

include put

theorem add [DecidableEq χ] {cache : χ} (named : Keeps P (c.cacheName cache)) :
    Keeps P (c.add cache) := by
  refine (entryName_keeps named).bind fun name => ?_
  dsimp only
  split
  · exact .throw_bind _ _
  · refine .get_bind fun s _ => (Keeps.modify (put _)).bind fun _ => ?_
    split <;> exact keep.note _

theorem remove (name : Option String) : Keeps P (c.remove name) := by
  refine .get_bind fun s _ => (Keeps.modify (put _)).bind fun _ => ?_
  split
  · exact (keep.note _).bind fun _ => .pure _
  · exact .pure _

theorem clear : Keeps P c.clear := (Keeps.modify (put ∅)).bind fun _ => keep.note _

end ReadsKeep

end Collector

end CacheTelemetry
