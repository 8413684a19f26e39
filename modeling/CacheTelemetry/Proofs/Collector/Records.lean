import CacheTelemetry.Proofs.Collector.Steady
import CacheTelemetry.Proofs.Collector.Trace
import CacheTelemetry.Proofs.Session.Keeping
import CacheTelemetry.Proofs.Session.Quiet

/-!
# The records of a scrape

`Collector.recorded c` is the collector `c` that keeps a list of the records that it writes to the
log. Keeping the list changes nothing else: **a recorded scrape ends as the scrape itself**
(`recorded_collect`). What foreign code writes to the log while it is asked is not in the list.

`Collector.records c s` are the records of the scrape from `s`. From a steady state they are those
of the collector whose world holds still (`Steady.records_eq`), and in a quiet world of a session
they are what the scrape adds to the log (`Session.journal_of_isQuiet`).
-/

namespace CacheTelemetry

namespace Collector

open Effect

variable {σ κ χ : Type} [BEq κ] {c : Collector σ κ χ} {s : σ}

/-- The collector that keeps a list of the records that it writes. -/
def recorded (c : Collector σ κ χ) : Collector (σ × List LogRecord) κ χ where
  roster p := c.roster p.1
  setRoster r p := (c.setRoster r p.1, p.2)
  settings p := c.settings p.1
  cacheName x := (c.cacheName x).beside
  managerUri x := (c.managerUri x).beside
  isRegistered n := (c.isRegistered n).beside
  readAttribute n attr := (c.readAttribute n attr).beside
  wording := c.wording.beside
  log record p := (c.log record p.1, p.2 ++ [record])

/-- The records that a scrape writes to the log, in order. -/
def records (c : Collector σ κ χ) (s : σ) : List LogRecord :=
  (c.recorded.collect.runFrom (s, [])).2.2

/-- The list of records is not looked at. -/
theorem recorded_simulates (c : Collector σ κ χ) :
    Simulates c.recorded c fun p s => p.1 = s where
  settings h := by subst h; rfl
  managerUri h _ := by subst h; exact ⟨rfl, rfl⟩
  isRegistered h _ := by subst h; exact ⟨rfl, rfl⟩
  readAttribute h _ _ := by subst h; exact ⟨rfl, rfl⟩
  wording h _ := by subst h; exact ⟨rfl, rfl⟩
  log h _ := by subst h; rfl

/-- A recorded scrape ends as the scrape itself, and has kept its records. -/
theorem recorded_collect (c : Collector σ κ χ) (s : σ) :
    c.recorded.collect.runFrom (s, []) =
      ((c.collect.runFrom s).1, (c.collect.runFrom s).2, c.records s) := by
  obtain ⟨outcome, state⟩ := (recorded_simulates c).collect (s := (s, [])) (t := s) rfl rfl
  exact Prod.ext outcome (Prod.ext state rfl)

/-- A steady collector writes the records of the one that holds still. -/
theorem Steady.recorded_simulates_still (h : c.Steady s) (roster : Roster κ χ) :
    Simulates c.recorded ((c.outlook s).still roster) fun p records =>
      c.Reached s p.1 ∧ p.2 = records where
  settings hR := (h.simulates roster).settings hR.1
  managerUri hR x :=
    have ⟨outcome, reached⟩ := (h.simulates roster).managerUri hR.1 x
    ⟨outcome, reached, hR.2⟩
  isRegistered hR n :=
    have ⟨outcome, reached⟩ := (h.simulates roster).isRegistered hR.1 n
    ⟨outcome, reached, hR.2⟩
  readAttribute hR n st := by
    obtain ⟨outcome, reached⟩ := (h.simulates roster).readAttribute hR.1 n st
    refine ⟨outcome, reached, ?_⟩
    rw [Outlook.runFrom_still_readAttribute]
    exact hR.2
  wording hR w :=
    have ⟨outcome, reached⟩ := (h.simulates roster).wording hR.1 w
    ⟨outcome, reached, hR.2⟩
  log hR record := ⟨hR.1.log record, by rw [← hR.2]; rfl⟩

/-- From a steady state the records of a scrape are a function of the roster and the outlook. -/
theorem Steady.records_eq (h : c.Steady s) :
    c.records s =
      ((((c.outlook s).still ∅).visitAll (c.roster s).entries).runFrom []).2 := by
  rw [records, runFrom_collect]
  exact ((h.recorded_simulates_still ∅).visitAll (c.roster s).entries
    (s := (s, [])) (t := []) ⟨.start, rfl⟩).2.2

end Collector

namespace Session

open Collector Effect

variable {perform : Performer} {w : World}

/-- The list of records and the log have grown by the same records. -/
def World.Logged (w : World) (q : World × List LogRecord) (v : World) : Prop :=
  q.1 = v ∧ v = { w with journal := q.2.reverse ++ w.journal }

/-- What is fixed in a world but for its log goes on alike beside a list of records. -/
theorem World.Logged.agree {α : Type} {x : Effect World α} (fixed : FixedOn w.SameButLog x)
    {q : World × List LogRecord} {v : World} (h : w.Logged q v) :
    Agree w.Logged x.beside q x v := by
  obtain ⟨r, run⟩ := fixed
  obtain ⟨v, records⟩ := q
  obtain ⟨rfl, same⟩ := h
  have left : x.runFrom v = (r, v) := run v ⟨_, same⟩
  refine ⟨rfl, ?_⟩
  rw [Effect.beside, runFrom_ofFun, left]
  exact ⟨rfl, same⟩

/-- A record goes to both. -/
theorem World.Logged.log {q : World × List LogRecord} {v : World} (h : w.Logged q v)
    (record : LogRecord) : w.Logged (q.1.log record, q.2 ++ [record]) (v.log record) := by
  obtain ⟨rfl, same⟩ := h
  refine ⟨rfl, ?_⟩
  rw [World.log, same, List.reverse_append]
  rfl

/-- A scrape in a quiet world adds its records to the log, and changes nothing else. -/
theorem journal_of_isQuiet (h : w.isQuiet = true) (p : Place) :
    ((collectorIn perform p).collect.runFrom w).2 =
      { w with journal := ((collectorIn perform p).records w).reverse ++ w.journal } := by
  have fixed : (collectorIn perform p).ReadsFixed w.SameButLog := readsFixed_of_isQuiet h p
  have simulates : Simulates (collectorIn perform p).recorded (collectorIn perform p) w.Logged :=
    { settings := fun hR => by rw [← hR.1]; rfl
      managerUri := fun hR x => hR.agree (fixed.managerUri x)
      isRegistered := fun hR n => hR.agree (fixed.isRegistered n)
      readAttribute := fun hR n st => hR.agree (fixed.readAttribute n st)
      wording := fun hR w => hR.agree (fixed.wording w)
      log := fun hR record => hR.log record }
  exact (simulates.collect (s := (w, [])) (t := w) ⟨rfl, rfl⟩ rfl).2.2

/-- A step that scrapes in a quiet world reports the records of the scrape. -/
theorem records_reportOn_collect (h : w.isQuiet = true) {id : String} {p : Place}
    (known : w.collectorIds.get? id = some p) :
    (reportOn (.collect id) w).1.records =
      (collectorIn nested p).records { w with journal := [] } := by
  have scraped : ((Session.perform (.collect id)).runFrom { w with journal := [] }).2 =
      ((collectorIn nested p).collect.runFrom { w with journal := [] }).2 := by
    rw [perform_eq_execute, execute,
      runFrom_bind_of_ok (runFrom_collectorPlace (w := { w with journal := [] }) known),
      runFrom_bind_pure_snd]
  have quiet : { w with journal := [] }.isQuiet = true := h
  rw [reportOn]
  dsimp only
  rw [scraped, journal_of_isQuiet quiet p]
  simp

end Session

end CacheTelemetry
