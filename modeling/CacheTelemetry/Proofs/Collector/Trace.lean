import CacheTelemetry.Proofs.Collector.Simulation
import CacheTelemetry.Proofs.Collector.Visit

/-!
# The calls of a scrape

`Collector.traced c` is the collector `c` that keeps a list of the questions that it puts to its
registry and of what came back. Keeping the list changes nothing else: **a traced scrape ends as the
scrape itself** (`traced_collect`). What foreign code does on its own account while it is asked, a
scrape of the same collector included, is no call of this scrape and not in the list.

`Collector.calls c s` are the calls of the scrape from `s`. The list only ever grows at its end
(`Reached.calls_prefix`), and reading counts puts one block into it (`Reads.calls_eq`).
-/

namespace CacheTelemetry

/-- A question put to a management registry, and what came back. -/
inductive RegistryCall (κ : Type) where
  | query (n : ObjectName) (answer : Except Fault (Value κ))
  | read (n : ObjectName) (attr : String) (answer : Except Fault (Value κ))

namespace Effect

variable {σ τ α γ : Type}

/-- A computation beside a component of the state that it does not see. -/
def beside (x : Effect σ α) : Effect (σ × τ) α :=
  ofFun fun p => ((x.runFrom p.1).1, (x.runFrom p.1).2, p.2)

/-- A computation whose outcome is noted at the end of a list. -/
def noting (entry : Except Fault α → γ) (x : Effect σ α) : Effect (σ × List γ) α :=
  ofFun fun p => ((x.runFrom p.1).1, (x.runFrom p.1).2, p.2 ++ [entry (x.runFrom p.1).1])

/-- What agrees with a computation, and leaves `q` beside the state that it leaves. -/
theorem Agree.runFrom_eq {x : Effect σ α} {y : Effect (σ × τ) α} {s : σ} {p : σ × τ} {q : τ}
    (h : Agree (fun t p => p = (t, q)) x s y p) :
    y.runFrom p = ((x.runFrom s).1, (x.runFrom s).2, q) := Prod.ext h.1.symm h.2

end Effect

/-- Texts beside a component of the state that they do not see. -/
def Wording.beside {σ τ κ : Type} (word : Wording σ κ) : Wording (σ × τ) κ :=
  fun w => (word w).beside

namespace Collector

open Effect

variable {σ κ χ : Type} [BEq κ]

/-- The collector that keeps a list of its calls of the registry. -/
def traced (c : Collector σ κ χ) : Collector (σ × List (RegistryCall κ)) κ χ where
  roster p := c.roster p.1
  setRoster r p := (c.setRoster r p.1, p.2)
  settings p := c.settings p.1
  cacheName x := (c.cacheName x).beside
  managerUri x := (c.managerUri x).beside
  isRegistered n := (c.isRegistered n).noting (.query n)
  readAttribute n attr := (c.readAttribute n attr).noting (.read n attr)
  wording := c.wording.beside
  log record p := (c.log record p.1, p.2)

/-- The calls that a scrape makes of the registry, in order. -/
def calls (c : Collector σ κ χ) (s : σ) : List (RegistryCall κ) :=
  (c.traced.collect.runFrom (s, [])).2.2

variable {c : Collector σ κ χ}

/-- The list of calls is not looked at. -/
theorem traced_simulates (c : Collector σ κ χ) :
    Simulates c.traced c fun p s => p.1 = s where
  settings h := by subst h; rfl
  managerUri h _ := by subst h; exact ⟨rfl, rfl⟩
  isRegistered h _ := by subst h; exact ⟨rfl, rfl⟩
  readAttribute h _ _ := by subst h; exact ⟨rfl, rfl⟩
  wording h _ := by subst h; exact ⟨rfl, rfl⟩
  log h _ := by subst h; rfl

/-- A traced scrape ends as the scrape itself, and has kept its calls. -/
theorem traced_collect (c : Collector σ κ χ) (s : σ) :
    c.traced.collect.runFrom (s, []) =
      ((c.collect.runFrom s).1, (c.collect.runFrom s).2, c.calls s) := by
  obtain ⟨outcome, state⟩ := (traced_simulates c).collect (s := (s, [])) (t := s) rfl rfl
  exact Prod.ext outcome (Prod.ext state rfl)

/-- The walk of a traced scrape. -/
theorem traced_visitAll (c : Collector σ κ χ) (s : σ) :
    (c.traced.visitAll (c.roster s).entries).runFrom (s, []) =
      (((c.visitAll (c.roster s).entries).runFrom s).1,
        ((c.visitAll (c.roster s).entries).runFrom s).2, c.calls s) := by
  obtain ⟨outcome, state⟩ :=
    (traced_simulates c).visitAll (c.roster s).entries (s := (s, [])) (t := s) rfl
  refine Prod.ext outcome (Prod.ext state ?_)
  rw [calls, runFrom_collect]
  rfl

/-- Calls are noted at the end. -/
theorem Reached.calls_prefix {p q : σ × List (RegistryCall κ)} (h : c.traced.Reached p q) :
    p.2 <+: q.2 := by
  induction h with
  | start => exact List.prefix_rfl
  | managerUri _ _ ih | wording _ _ ih | log _ _ ih => exact ih
  | isRegistered _ _ ih | readAttribute _ _ _ ih => exact ih.trans (List.prefix_append _ _)

/-- The calls that read the six counts under a name. -/
def countCalls (n : ObjectName) (get : Statistic → Int) (sts : List Statistic) :
    List (RegistryCall κ) :=
  sts.map fun st => .read n st.attrName (.ok (.int (get st)))

/-- Reading counts one after the other notes their calls, and no others. -/
theorem Reads.calls_eq {n : ObjectName} {get : Statistic → Int} {sts : List Statistic}
    {p q : σ × List (RegistryCall κ)} (h : c.traced.Reads n get sts p q) :
    q.2 = p.2 ++ countCalls n get sts := by
  induction h with
  | nil => simp [countCalls]
  | @cons st rest p q r read others ih =>
    obtain ⟨outcome, state⟩ := Prod.mk.inj read
    have noted : q.2 = p.2 ++ [.read n st.attrName (.ok (.int (get st)))] := by
      rw [← state, ← outcome]
    rw [ih, noted, List.append_assoc]
    rfl

end Collector

end CacheTelemetry
