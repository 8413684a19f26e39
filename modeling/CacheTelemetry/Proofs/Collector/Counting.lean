import CacheTelemetry.Proofs.Collector.Invocations
import CacheTelemetry.Proofs.Collector.Keeping

/-!
# Reads of a counter

A *counter* is a callable that gives one number more each time it is called (`Host.HasCounter`). A
read *finds* it if the bean that is read keeps it at that moment; where it is kept may change at any
time, and so may the registry. A run is made of scrapes of any collectors, direct reads of the
registry, and anything else that happens in between (`Activity`).

Nothing of a read is kept for a later one: if only those reads call the counter that find it, **the
reads that find it give its numbers one after the other, in scrapes and between them**
(`Host.HasCounter.answers`).

Whether a read finds the counter is decided in the state in which the read is made, so the calls of
a scrape are listed together with their states (`Collector.datedCalls`).
-/

namespace CacheTelemetry

open Effect

variable {σ κ χ β : Type} {n : ObjectName} {attr : String} {start : Int} {m : Nat}

/-! ### Calls and their states -/

namespace Collector

variable [BEq κ]

/-- The collector that keeps a list of its calls of the registry and of the states in which it makes
them. -/
def dated (c : Collector σ κ χ) : Collector (σ × List (σ × RegistryCall κ)) κ χ where
  roster p := c.roster p.1
  setRoster r p := (c.setRoster r p.1, p.2)
  settings p := c.settings p.1
  cacheName x := (c.cacheName x).beside
  managerUri x := (c.managerUri x).beside
  isRegistered n := do
    let p ← get
    (c.isRegistered n).noting fun answer => (p.1, .query n answer)
  readAttribute n attr := do
    let p ← get
    (c.readAttribute n attr).noting fun answer => (p.1, .read n attr answer)
  wording := c.wording.beside
  log record p := (c.log record p.1, p.2)

/-- The calls that a scrape makes of the registry, in order, with the states in which they are
made. -/
def datedCalls (c : Collector σ κ χ) (s : σ) : List (σ × RegistryCall κ) :=
  (c.dated.collect.runFrom (s, [])).2.2

/-- The states are kept beside the calls. -/
theorem dated_simulates (c : Collector σ κ χ) :
    Simulates c.dated c.traced fun p q => p.1 = q.1 ∧ p.2.map Prod.snd = q.2 where
  settings h := congrArg c.settings h.1
  managerUri := fun {_ q} h x => by
    obtain ⟨s, calls⟩ := q
    obtain ⟨rfl, rfl⟩ := h
    exact ⟨rfl, rfl, rfl⟩
  isRegistered := fun {_ q} h n => by
    obtain ⟨s, calls⟩ := q
    obtain ⟨rfl, rfl⟩ := h
    exact ⟨rfl, rfl, List.map_append⟩
  readAttribute := fun {_ q} h n st => by
    obtain ⟨s, calls⟩ := q
    obtain ⟨rfl, rfl⟩ := h
    exact ⟨rfl, rfl, List.map_append⟩
  wording := fun {_ q} h w => by
    obtain ⟨s, calls⟩ := q
    obtain ⟨rfl, rfl⟩ := h
    exact ⟨rfl, rfl, rfl⟩
  log h record := ⟨congrArg (c.log record) h.1, h.2⟩

/-- A scrape that keeps its calls with their states ends as the scrape itself. -/
theorem dated_collect (c : Collector σ κ χ) (s : σ) :
    c.dated.collect.runFrom (s, []) =
      ((c.collect.runFrom s).1, (c.collect.runFrom s).2, c.datedCalls s) := by
  obtain ⟨outcome, state, -⟩ :=
    (dated_simulates c).collect (s := (s, [])) (t := (s, [])) ⟨rfl, rfl⟩ rfl
  rw [traced_collect] at outcome state
  exact Prod.ext outcome (Prod.ext state rfl)

/-- Without their states they are the calls of the scrape. -/
theorem map_snd_datedCalls (c : Collector σ κ χ) (s : σ) :
    (c.datedCalls s).map Prod.snd = c.calls s :=
  ((dated_simulates c).collect (s := (s, [])) (t := (s, [])) ⟨rfl, rfl⟩ rfl).2.2

/-- A call with the answer that there is to it in a state. -/
inductive Makes (c : Collector σ κ χ) (s : σ) : RegistryCall κ → Prop where
  | query (n : ObjectName) : Makes c s (.query n ((c.isRegistered n).runFrom s).1)
  | read (n : ObjectName) (st : Statistic) :
    Makes c s (.read n st.attrName ((c.readAttribute n st.attrName).runFrom s).1)

/-- The calls of a scrape have the answers that there are to them when they are made, in states that
the scrape reaches. -/
theorem makes_of_mem_datedCalls {c : Collector σ κ χ} {s : σ} {d : σ × RegistryCall κ}
    (mem : d ∈ c.datedCalls s) : c.Reached s d.1 ∧ c.Makes d.1 d.2 := by
  have keep : c.dated.ReadsKeep fun p =>
      c.Reached s p.1 ∧ ∀ d ∈ p.2, c.Reached s d.1 ∧ c.Makes d.1 d.2 :=
    { managerUri := fun x p hp => ⟨hp.1.managerUri x, hp.2⟩
      isRegistered := fun n p hp => ⟨hp.1.isRegistered n,
        List.forall_mem_append.2 ⟨hp.2, List.forall_mem_singleton.2 ⟨hp.1, .query n⟩⟩⟩
      readAttribute := fun n st p hp => ⟨hp.1.readAttribute n st,
        List.forall_mem_append.2 ⟨hp.2, List.forall_mem_singleton.2 ⟨hp.1, .read n st⟩⟩⟩
      wording := fun w p hp => ⟨hp.1.wording w, hp.2⟩
      log := fun record p hp => ⟨hp.1.log record, hp.2⟩ }
  exact (keep.collect (s, []) ⟨.start, by simp⟩).2 d mem

end Collector

/-! ### Numbers one after the other -/

/-- One number more with each answer, the first of them `start + m`. -/
def CountUp {κ : Type} (start : Int) (m : Nat) (answers : List (Except Fault (Value κ))) : Prop :=
  ∀ (k : Nat) (answer : Except Fault (Value κ)), answers[k]? = some answer →
    answer = .ok (.int (start + (m + k : Nat)))

theorem CountUp.nil : CountUp start m ([] : List (Except Fault (Value κ))) := by
  simp [CountUp]

theorem CountUp.append {answers later : List (Except Fault (Value κ))}
    (first : CountUp start m answers) (second : CountUp start (m + answers.length) later) :
    CountUp start m (answers ++ later) := by
  intro k answer h
  rw [List.getElem?_append] at h
  split at h
  · exact first k answer h
  · rename_i behind
    have number := second _ answer h
    rwa [show m + answers.length + (k - answers.length) = m + k by omega] at number

theorem CountUp.singleton :
    CountUp start m [(.ok (.int (start + m)) : Except Fault (Value κ))] := by
  intro k answer h
  cases k with
  | zero => exact (Option.some.inj h).symm
  | succ k => cases h

/-! ### Counters -/

namespace Host

/-- In the states `I m` a counter, which counts from `start`, has been called `m` times: each call
of it gives the next number, and finding it where it is kept does not call it. The callables with
`isCounter` are the counter. -/
structure HasCounter (h : Host σ κ β) (isCounter : κ → Bool) (start : Int) (I : Nat → σ → Prop) :
    Prop where
  called : ∀ m s callable, I m s → isCounter callable = true →
    ∃ t, (h.call callable).runFrom s = (.ok (.int (start + m)), t) ∧ I (m + 1) t
  found : ∀ m s n attr bean callable u, I m s → (h.registry s).get? n = some bean →
    (h.view s bean).Keeps attr (.special callable) s u → isCounter callable = true → I m u

/-- A read finds the counter. -/
def Finds (h : Host σ κ β) (isCounter : κ → Bool) (n : ObjectName) (attr : String) (s : σ) : Bool :=
  (h.callable? n attr s).any isCounter

/-- A read that does not find the counter does not call it. -/
def SparesCounter (h : Host σ κ β) (isCounter : κ → Bool) (I : Nat → σ → Prop) (n : ObjectName)
    (attr : String) : Prop :=
  ∀ m s, I m s → h.Finds isCounter n attr s = false → I m ((h.readAttribute n attr).runFrom s).2

/-- The answer of a call that reads an attribute and finds the counter. -/
def answerOf? (h : Host σ κ β) (isCounter : κ → Bool) :
    σ × RegistryCall κ → Option (Except Fault (Value κ))
  | (s, .read n attr answer) => if h.Finds isCounter n attr s then some answer else none
  | (_, .query _ _) => none

/-- The answers to the reads that find the counter among some calls. -/
def answersOf (h : Host σ κ β) (isCounter : κ → Bool) (calls : List (σ × RegistryCall κ)) :
    List (Except Fault (Value κ)) :=
  calls.filterMap (h.answerOf? isCounter)

end Host

/-- A scrape of the collector reads through the host, and calls the counter by no other means. -/
structure Collector.SparesCounter [BEq κ] (c : Collector σ κ χ) (h : Host σ κ β)
    (isCounter : κ → Bool) (I : Nat → σ → Prop) : Prop where
  hosted : ∀ m s n (st : Statistic), I m s →
    (c.readAttribute n st.attrName).runFrom s = (h.readAttribute n st.attrName).runFrom s
  reads : ∀ n (st : Statistic), h.SparesCounter isCounter I n st.attrName
  managerUri : ∀ m x, Keeps (I m) (c.managerUri x)
  isRegistered : ∀ m n, Keeps (I m) (c.isRegistered n)
  wording : ∀ m w, Keeps (I m) (c.wording w)
  log : ∀ m record s, I m s → I m (c.log record s)

/-! ### Runs -/

/-- What may happen in a run. -/
inductive Activity (σ κ χ : Type) [BEq κ] where
  /-- A collector is scraped. -/
  | scrape (c : Collector σ κ χ)
  /-- An attribute is read from the registry. -/
  | read (n : ObjectName) (attr : String)
  /-- Anything else happens. -/
  | other (x : Effect σ Unit)

namespace Activity

variable [BEq κ]

/-- The calls of the registry in an activity, and the state that it leaves. -/
def run (h : Host σ κ β) : Activity σ κ χ → σ → List (σ × RegistryCall κ) × σ
  | .scrape c, s => (c.datedCalls s, (c.collect.runFrom s).2)
  | .read n attr, s =>
    ([(s, .read n attr ((h.readAttribute n attr).runFrom s).1)],
      ((h.readAttribute n attr).runFrom s).2)
  | .other x, s => ([], (x.runFrom s).2)

/-- The calls of the registry in a run. -/
def calls (h : Host σ κ β) : List (Activity σ κ χ) → σ → List (σ × RegistryCall κ)
  | [], _ => []
  | a :: rest, s => (a.run h s).1 ++ calls h rest (a.run h s).2

/-- An activity calls the counter only by the reads that find it. -/
def Spares (h : Host σ κ β) (isCounter : κ → Bool) (I : Nat → σ → Prop) : Activity σ κ χ → Prop
  | .scrape c => c.SparesCounter h isCounter I
  | .read n attr => h.SparesCounter isCounter I n attr
  | .other x => ∀ m, Keeps (I m) x

end Activity

namespace Host

variable {h : Host σ κ β} {isCounter : κ → Bool} {I : Nat → σ → Prop} {s t : σ}
  {calls later : List (σ × RegistryCall κ)}

/-- The reads that find the counter count up, from `m` calls of it to as many more as there are such
reads. -/
def Counted (h : Host σ κ β) (isCounter : κ → Bool) (start : Int) (I : Nat → σ → Prop) (m : Nat)
    (p : σ × List (σ × RegistryCall κ)) : Prop :=
  CountUp start m (h.answersOf isCounter p.2) ∧ I (m + (h.answersOf isCounter p.2).length) p.1

theorem answersOf_append (h : Host σ κ β) (isCounter : κ → Bool)
    (calls later : List (σ × RegistryCall κ)) :
    h.answersOf isCounter (calls ++ later) =
      h.answersOf isCounter calls ++ h.answersOf isCounter later :=
  List.filterMap_append

theorem Counted.trans (first : h.Counted isCounter start I m (s, calls))
    (second : h.Counted isCounter start I (m + (h.answersOf isCounter calls).length) (t, later)) :
    h.Counted isCounter start I m (t, calls ++ later) := by
  obtain ⟨up, -⟩ := first
  obtain ⟨up', called⟩ := second
  constructor
  · rw [answersOf_append]
    exact up.append up'
  · rw [answersOf_append, List.length_append, ← Nat.add_assoc]
    exact called

/-- Where the counter is not found, nothing is counted. -/
theorem Counted.of_answersOf_eq_nil (hs : I m s) (none : h.answersOf isCounter calls = []) :
    h.Counted isCounter start I m (s, calls) := by
  rw [Counted, none]
  exact ⟨.nil, hs⟩

namespace HasCounter

variable (counts : h.HasCounter isCounter start I)

include counts

/-- A read that finds the counter gives the next number. -/
theorem read (hs : I m s) (finds : h.Finds isCounter n attr s = true) :
    ∃ t, (h.readAttribute n attr).runFrom s = (.ok (.int (start + m)), t) ∧ I (m + 1) t := by
  rw [Finds] at finds
  rcases there : h.callable? n attr s with _ | callable <;> rw [there] at finds
  · cases finds
  · obtain ⟨bean, u, found, kept⟩ := callable?_eq_some_iff.1 there
    obtain ⟨t, called, ht⟩ :=
      counts.called m u callable (counts.found m s n attr bean callable u hs found kept finds) finds
    exact ⟨t, Registry.readAttribute_eq_ok_iff.2 ⟨bean, found, .called kept called⟩, ht⟩

theorem counted_read (hs : I m s) (spares : h.SparesCounter isCounter I n attr) :
    h.Counted isCounter start I m (((h.readAttribute n attr).runFrom s).2,
      [(s, .read n attr ((h.readAttribute n attr).runFrom s).1)]) := by
  by_cases finds : h.Finds isCounter n attr s = true
  · obtain ⟨t, read, ht⟩ := counts.read hs finds
    have answers : h.answersOf isCounter [(s, .read n attr (.ok (.int (start + m))))] =
        [.ok (.int (start + m))] := List.filterMap_cons_some (if_pos finds)
    rw [read, Counted, answers]
    exact ⟨.singleton, ht⟩
  · rw [Bool.not_eq_true] at finds
    exact .of_answersOf_eq_nil (spares m s hs finds)
      (List.filterMap_cons_none (if_neg (by simp [finds])))

variable [BEq κ]

/-- A read of a scrape that finds the counter gives the next number, whoever has called it
before. -/
theorem answer_of_mem_datedCalls {c : Collector σ κ χ} {r : σ} {answer : Except Fault (Value κ)}
    (hosted : c.IsHosted h r) (mem : (s, .read n attr answer) ∈ c.datedCalls r) (hs : I m s)
    (finds : h.Finds isCounter n attr s = true) : answer = .ok (.int (start + m)) := by
  obtain ⟨reached, made⟩ := Collector.makes_of_mem_datedCalls mem
  dsimp only at reached made
  cases made with
  | read n st =>
    obtain ⟨t, read, -⟩ := counts.read hs finds
    rw [hosted.readAttribute s reached n st, read]

/-- The calls of a collector that spares the counter count up. -/
theorem readsKeep_counted {c : Collector σ κ χ} (spares : c.SparesCounter h isCounter I) (m : Nat) :
    c.dated.ReadsKeep (h.Counted isCounter start I m) where
  managerUri x p hp := ⟨hp.1, spares.managerUri _ x p.1 hp.2⟩
  isRegistered n p hp :=
    hp.trans (.of_answersOf_eq_nil (spares.isRegistered _ n p.1 hp.2) rfl)
  readAttribute n st p hp := by
    refine Counted.trans hp ?_
    have counted := counts.counted_read hp.2 (spares.reads n st)
    rwa [← spares.hosted _ p.1 n st hp.2] at counted
  wording w p hp := ⟨hp.1, spares.wording _ w p.1 hp.2⟩
  log record p hp := ⟨hp.1, spares.log _ record p.1 hp.2⟩

/-- The calls of an activity count up. -/
theorem counted_run {a : Activity σ κ χ} (spares : a.Spares h isCounter I) (hs : I m s) :
    h.Counted isCounter start I m ((a.run h s).2, (a.run h s).1) := by
  cases a with
  | scrape c =>
    have counted := (counts.readsKeep_counted spares m).collect (s, [])
      (.of_answersOf_eq_nil hs rfl)
    rwa [c.dated_collect s] at counted
  | read n attr => exact counts.counted_read hs spares
  | other x => exact .of_answersOf_eq_nil (spares m s hs) rfl

/-- **The reads that find a counter give its numbers one after the other**, in scrapes and between
them. -/
theorem answers {activities : List (Activity σ κ χ)}
    (spare : ∀ a ∈ activities, a.Spares h isCounter I) (hs : I m s) :
    CountUp start m (h.answersOf isCounter (Activity.calls h activities s)) := by
  induction activities generalizing m s with
  | nil => exact .nil
  | cons a rest ih =>
    -- the rest begins to count where the first activity has left off
    obtain ⟨up, called⟩ := counts.counted_run (spare a List.mem_cons_self) hs
    rw [Activity.calls, answersOf_append]
    exact up.append (ih (fun b hb => spare b (List.mem_cons_of_mem a hb)) called)

end HasCounter

end Host

end CacheTelemetry
