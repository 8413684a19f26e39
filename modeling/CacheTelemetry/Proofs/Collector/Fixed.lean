import CacheTelemetry.Proofs.Collector.Keeping
import CacheTelemetry.Proofs.Collector.Steady

/-!
# Collectors whose reads are fixed

In the states with some property, let all that a scrape reads have the same outcomes and no effects,
and let log records keep the property. Then **a scrape gets to see the same in all these states**
(`ReadsFixed.outlook_eq`), so the collector is steady in them (`ReadsFixed.steady`) and the answers
of its registry are pure (`ReadsFixed.answersPurely`).
-/

namespace CacheTelemetry

namespace Collector

open Effect

variable {σ κ χ : Type} [BEq κ] {c : Collector σ κ χ} {P : σ → Prop} {s t : σ}

/-- What a scrape reads is fixed on a property of states, which log records keep. -/
structure ReadsFixed (c : Collector σ κ χ) (P : σ → Prop) : Prop where
  settings : ∀ s t, P s → P t → c.settings s = c.settings t
  managerUri : ∀ x, FixedOn P (c.managerUri x)
  isRegistered : ∀ n, FixedOn P (c.isRegistered n)
  readAttribute : ∀ n (st : Statistic), FixedOn P (c.readAttribute n st.attrName)
  wording : ∀ w, FixedOn P (c.wording w)
  log : ∀ record s, P s → P (c.log record s)

/-- The name under which a cache is entered is fixed if a single read of it is. -/
theorem fixedOn_entryName {cache : χ} (named : FixedOn P (c.cacheName cache)) :
    FixedOn P (c.entryName cache) := by
  obtain ⟨r, run⟩ := id named
  refine .bind_of run fun name _ => ?_
  split
  · exact .pure _
  · exact named

namespace ReadsFixed

variable (fixed : c.ReadsFixed P)

include fixed

/-- Fixed reads keep the property. -/
theorem readsKeep : c.ReadsKeep P where
  managerUri x := (fixed.managerUri x).keeps
  isRegistered n := (fixed.isRegistered n).keeps
  readAttribute n st := (fixed.readAttribute n st).keeps
  wording w := (fixed.wording w).keeps
  log := fixed.log

theorem outlook_eq (hs : P s) (ht : P t) : c.outlook s = c.outlook t := by
  simp only [outlook, fixed.settings s t hs ht, (fixed.managerUri _).runFrom_eq hs ht,
    (fixed.isRegistered _).runFrom_eq hs ht, (fixed.readAttribute _ _).runFrom_eq hs ht,
    (fixed.wording _).runFrom_eq hs ht]

theorem steady (hs : P s) : c.Steady s :=
  fun _ reached => fixed.outlook_eq (fixed.readsKeep.reached hs reached) hs

theorem answersPurely (hs : P s) : c.AnswersPurely s where
  isRegistered n := congrArg Prod.snd ((fixed.isRegistered n).runFrom_eq hs hs)
  readAttribute n st := congrArg Prod.snd ((fixed.readAttribute n st).runFrom_eq hs hs)

end ReadsFixed

end Collector

end CacheTelemetry
