import CacheTelemetry.Proofs.Collector.Visit
import Mathlib.Tactic.Choose
import Mathlib.Tactic.Push
import Mathlib.Tactic.Tauto

/-!
# What a scrape gets to see

The *outlook* of a collector in a state is what a scrape gets to see there: the settings, and the
answers of foreign code. What becomes of an entry depends on the outlook alone, and there are four
cases (`Outlook.entry_cases`): the entry is malformed, it has counts to give, there are no
statistics for it, or its statistics fail. `Outlook.counts?` computes the counts that an entry has
to give.

A failing entry *has to say* what its failure is about, an error or a value that is no integer
(`Outlook.HasToSay`). If the words for that fail in turn, the entry *leaks* a fault
(`Outlook.Leaks`).

A scrape reads the address of a cache first and asks the registry then. Where the answers of the
registry do not change the state, **an entry is sampled exactly with the counts that it has to give
in the state in which its address has been read** (`AnswersPurely.visit_eq_sampled_iff`).
-/

namespace CacheTelemetry

/-- What a scrape gets to see: settings, and the answers of foreign code. -/
structure Outlook (κ χ : Type) where
  settings : Settings
  uri : χ → Except Fault (Value κ)
  isRegistered : ObjectName → Except Fault (Value κ)
  attr : ObjectName → Statistic → Except Fault (Value κ)
  word : Wordable κ → Except Fault String

/-- Where some item of a list has a property there is a first one. -/
theorem exists_first {α : Type} {P : α → Prop} {l : List α} (h : ∃ a ∈ l, P a) :
    ∃ before a after, l = before ++ a :: after ∧ P a ∧ ∀ b ∈ before, ¬ P b := by
  induction l with
  | nil => simp at h
  | cons a rest ih =>
    by_cases ha : P a
    · exact ⟨[], a, rest, rfl, ha, by simp⟩
    · obtain ⟨b, hb, holds⟩ := h
      rcases List.mem_cons.1 hb with rfl | hb
      · exact absurd holds ha
      obtain ⟨before, b', after, rfl, holds, first⟩ := ih ⟨b, hb, holds⟩
      exact ⟨a :: before, b', after, rfl, holds, List.forall_mem_cons.2 ⟨ha, first⟩⟩

namespace Outlook

variable {κ χ : Type} (o : Outlook κ χ)

/-! ### Entries -/

/-- The name under which the statistics of an entry are looked for. -/
def Names (e : Value κ × χ) (n : ObjectName) : Prop :=
  ∃ uri, o.uri e.2 = .ok uri ∧ o.settings.nameOf uri e.1 = .ok n

/-- The registry answers that a name is registered. -/
def Registers (n : ObjectName) : Prop :=
  ∃ answer, o.isRegistered n = .ok answer ∧ answer.truth = true

/-- All six attributes under a name are integers, those of `k`. -/
def HasCounts (n : ObjectName) (k : Counts) : Prop :=
  ∀ st, o.attr n st = .ok (.int (k.get st))

/-- A double quote stands in the name of the entry or in the text of its address. -/
def IsMalformed (e : Value κ × χ) : Prop :=
  '"' ∈ e.1.plain.toList ∨ ∃ uri, o.uri e.2 = .ok uri ∧ '"' ∈ uri.plain.toList

/-- The statistics of the entry are registered, and have counts to give. -/
def Gives (e : Value κ × χ) (k : Counts) : Prop :=
  ∃ n, o.Names e n ∧ n.isPattern = false ∧ o.Registers n ∧ o.HasCounts n k

/-- There are no statistics for the entry. -/
def IsAbsent (e : Value κ × χ) : Prop :=
  ∃ n, o.Names e n ∧ (n.isPattern = true ∨
    n.isPattern = false ∧ ∃ answer, o.isRegistered n = .ok answer ∧ answer.truth = false)

/-- The registry fails to answer for the entry, or one of the six attributes fails or is no
integer. -/
def IsFailing (e : Value κ × χ) : Prop :=
  ∃ n, o.Names e n ∧ n.isPattern = false ∧ ((∃ f, o.isRegistered n = .error f) ∨
    o.Registers n ∧ ∃ st, ∀ i, o.attr n st ≠ .ok (.int i))

/-- It comes to a statistic if all those before it are integers. -/
def ComesTo (n : ObjectName) (st : Statistic) : Prop :=
  ∃ before after, Statistic.all = before ++ st :: after ∧
    ∀ st' ∈ before, ∃ i, o.attr n st' = .ok (.int i)

/-- What the failure of the statistics under a name is about: the error of the registry, or the
first of the attributes that is no integer. -/
inductive HasToSay (n : ObjectName) : Wordable κ → Prop where
  | query {f : Fault} (failed : o.isRegistered n = .error f) : HasToSay n (.error f)
  | read {st : Statistic} {f : Fault} (registers : o.Registers n) (comes : o.ComesTo n st)
    (failed : o.attr n st = .error f) : HasToSay n (.error f)
  | count {st : Statistic} {v : Value κ} (registers : o.Registers n) (comes : o.ComesTo n st)
    (given : o.attr n st = .ok v) (integer : ∀ i, v ≠ .int i) : HasToSay n (.value v)

/-- What putting something into words comes to. -/
def said (w : Wordable κ) : Except Fault String :=
  if w.isForeign then o.word w else .ok w.text

/-- The failure of an entry cannot be put into words: that fails with a fault which is no failure to
read statistics. -/
def Leaks (e : Value κ × χ) (f : Fault) : Prop :=
  ∃ n w, o.Names e n ∧ n.isPattern = false ∧ o.HasToSay n w ∧ o.said w = .error f ∧
    f.kind ≠ .statisticsRead

/-- The counts under a name, if all six attributes are integers. -/
def countsAt? (n : ObjectName) : Option Counts :=
  Counts.readAll fun st =>
    match o.attr n st with
    | .ok (.int i) => some i
    | _ => none

/-- The counts that an entry has to give. -/
def counts? (e : Value κ × χ) : Option Counts := do
  let uri ← (o.uri e.2).toOption
  let n ← (o.settings.nameOf uri e.1).toOption
  if n.isPattern then none
  else
    let answer ← (o.isRegistered n).toOption
    if answer.truth then o.countsAt? n else none

variable {o}

theorem countsAt?_eq_some_iff {n : ObjectName} {k : Counts} :
    o.countsAt? n = some k ↔ o.HasCounts n k := by
  have integer : ∀ (v : Except Fault (Value κ)) (i : Int),
      (match v with
        | .ok (.int i) => some i
        | _ => none) = some i ↔ v = .ok (.int i) := by
    intro v i
    split <;> simp_all
  simp only [countsAt?, Counts.readAll, Option.bind_eq_bind, Option.bind_eq_some_iff, integer,
    Option.pure_def, Option.some.injEq]
  constructor
  · rintro ⟨hits, h₁, misses, h₂, gets, h₃, puts, h₄, evictions, h₅, removals, h₆, rfl⟩ st
    cases st <;> assumption
  · intro h
    exact ⟨_, h .hits, _, h .misses, _, h .gets, _, h .puts, _, h .evictions, _, h .removals, rfl⟩

/-- The counts that an entry gives are those that are registered for it. -/
theorem counts?_eq_some_iff {e : Value κ × χ} {k : Counts} :
    o.counts? e = some k ↔ o.Gives e k := by
  have toOption : ∀ {ε α : Type} (x : Except ε α) (a : α), x.toOption = some a ↔ x = .ok a := by
    intro ε α x a
    cases x <;> simp [Except.toOption]
  simp only [counts?, Option.bind_eq_bind, Option.bind_eq_some_iff, toOption]
  constructor
  · rintro ⟨uri, hu, n, hn, h⟩
    split at h
    · cases h
    · rename_i pattern
      obtain ⟨answer, ha, h⟩ := Option.bind_eq_some_iff.1 h
      split at h
      · rename_i truth
        exact ⟨n, ⟨uri, hu, hn⟩, by simpa using pattern, ⟨answer, (toOption _ _).1 ha, truth⟩,
          countsAt?_eq_some_iff.1 h⟩
      · cases h
  · rintro ⟨n, ⟨uri, hu, hn⟩, pattern, ⟨answer, ha, truth⟩, hk⟩
    refine ⟨uri, hu, n, hn, ?_⟩
    rw [if_neg (by simp [pattern]), (toOption _ _).2 ha, Option.bind_some, if_pos truth]
    exact countsAt?_eq_some_iff.2 hk

/-- An entry whose address and label can be written is malformed exactly if no name can be composed
for it. -/
theorem isMalformed_iff {e : Value κ × χ} {uri : Value κ} (h : o.uri e.2 = .ok uri)
    (written : uri.isWritable = true ∧ e.1.isWritable = true) :
    o.IsMalformed e ↔ ∃ u, o.settings.nameOf uri e.1 = .error u := by
  have named := o.settings.exists_nameOf_iff uri e.1
  rw [and_iff_right written] at named
  have malformed : o.IsMalformed e ↔ ¬ ('"' ∉ uri.plain.toList ∧ '"' ∉ e.1.plain.toList) := by
    simp only [IsMalformed, h, Except.ok.injEq, exists_eq_left']
    tauto
  rw [malformed, ← named]
  cases o.settings.nameOf uri e.1 <;> simp

/-- What there can be to an entry whose address is read. -/
theorem entry_cases {e : Value κ × χ} {uri : Value κ} (h : o.uri e.2 = .ok uri)
    (written : uri.isWritable = true ∧ e.1.isWritable = true) :
    o.IsMalformed e ∨ (∃ k, o.Gives e k) ∨ o.IsAbsent e ∨ o.IsFailing e := by
  rcases hn : o.settings.nameOf uri e.1 with u | n
  · exact .inl ((isMalformed_iff h written).2 ⟨u, hn⟩)
  have names : o.Names e n := ⟨uri, h, hn⟩
  right
  rcases hp : n.isPattern with _ | _
  · rcases ha : o.isRegistered n with f | answer
    · exact .inr (.inr ⟨n, names, hp, .inl ⟨f, ha⟩⟩)
    rcases ht : answer.truth with _ | _
    · exact .inr (.inl ⟨n, names, .inr ⟨hp, answer, ha, ht⟩⟩)
    rcases hk : o.countsAt? n with _ | k
    · refine .inr (.inr ⟨n, names, hp, .inr ⟨⟨answer, ha, ht⟩, ?_⟩⟩)
      by_contra all
      push Not at all
      choose get hget using all
      have counts : o.HasCounts n ⟨get .hits, get .misses, get .gets, get .puts, get .evictions,
          get .removals⟩ := fun st => by cases st <;> exact hget _
      rw [countsAt?_eq_some_iff.2 counts] at hk
      cases hk
    · exact .inl ⟨k, n, names, hp, ⟨answer, ha, ht⟩, countsAt?_eq_some_iff.1 hk⟩
  · exact .inr (.inl ⟨n, names, .inl hp⟩)

/-- A failing entry has something to say. -/
theorem IsFailing.exists_hasToSay {e : Value κ × χ} (h : o.IsFailing e) :
    ∃ n w, o.Names e n ∧ n.isPattern = false ∧ o.HasToSay n w := by
  obtain ⟨n, names, pattern, ⟨f, failed⟩ | ⟨registers, st, other⟩⟩ := h
  · exact ⟨n, _, names, pattern, .query failed⟩
  obtain ⟨before, st, after, all, other, first⟩ := exists_first
    (P := fun st => ∀ i, o.attr n st ≠ .ok (.int i)) ⟨st, st.mem_all, other⟩
  have comes : o.ComesTo n st := ⟨before, after, all, by simpa using first⟩
  cases given : o.attr n st with
  | error f => exact ⟨n, _, names, pattern, .read registers comes given⟩
  | ok v => exact ⟨n, _, names, pattern, .count registers comes given fun i integer =>
      other i (by rw [given, integer])⟩

/-- Only a failing entry has something to say. -/
theorem HasToSay.isFailing {e : Value κ × χ} {n : ObjectName} {w : Wordable κ}
    (h : o.HasToSay n w) (names : o.Names e n) (pattern : n.isPattern = false) :
    o.IsFailing e := by
  refine ⟨n, names, pattern, ?_⟩
  cases h with
  | query failed => exact .inl ⟨_, failed⟩
  | @read st _ registers _ failed => exact .inr ⟨registers, st, fun i given => by simp_all⟩
  | @count st _ registers _ given integer =>
    exact .inr ⟨registers, st, fun i given' =>
      integer i (Except.ok.inj (given.symm.trans given'))⟩

theorem Leaks.isFailing {e : Value κ × χ} {f : Fault} (h : o.Leaks e f) : o.IsFailing e := by
  obtain ⟨n, w, names, pattern, toSay, -⟩ := h
  exact toSay.isFailing names pattern

/-- The outlook once an address has been read. -/
def withUri (o : Outlook κ χ) (uri : Value κ) : Outlook κ χ := { o with uri := fun _ => .ok uri }

/-- It makes no difference whether an address is looked at or has been read before. -/
theorem counts?_withUri {e : Value κ × χ} {uri : Value κ} (h : o.uri e.2 = .ok uri) :
    (o.withUri uri).counts? e = o.counts? e := by
  simp only [counts?, withUri, h]
  rfl

end Outlook

namespace Collector

open Effect

variable {σ κ χ : Type} [BEq κ] {c : Collector σ κ χ} {s t : σ}

/-- What a scrape gets to see in a state. -/
def outlook (c : Collector σ κ χ) (s : σ) : Outlook κ χ where
  settings := c.settings s
  uri x := ((c.managerUri x).runFrom s).1
  isRegistered n := ((c.isRegistered n).runFrom s).1
  attr n st := ((c.readAttribute n st.attrName).runFrom s).1
  word w := ((c.wording w).runFrom s).1

/-- The answers that the registry gives in a state leave it as it is. -/
structure AnswersPurely (c : Collector σ κ χ) (s : σ) : Prop where
  isRegistered : ∀ n, ((c.isRegistered n).runFrom s).2 = s
  readAttribute : ∀ n (st : Statistic), ((c.readAttribute n st.attrName).runFrom s).2 = s

namespace AnswersPurely

/-- Reading attributes is looking at them in one state. -/
theorem reads_iff (h : c.AnswersPurely s) {n : ObjectName} {get : Statistic → Int}
    {sts : List Statistic} :
    c.Reads n get sts s t ↔
      (∀ st ∈ sts, (c.outlook s).attr n st = .ok (.int (get st))) ∧ t = s := by
  induction sts with
  | nil =>
    constructor
    · rintro ⟨⟩
      exact ⟨by simp, rfl⟩
    · rintro ⟨-, rfl⟩
      exact .nil
  | cons st rest ih =>
    have state := h.readAttribute n st
    constructor
    · rintro (_ | ⟨read, others⟩)
      rw [read] at state
      cases state
      obtain ⟨hrest, rfl⟩ := ih.1 others
      exact ⟨List.forall_mem_cons.2 ⟨congrArg Prod.fst read, hrest⟩, rfl⟩
    · rintro ⟨hget, rfl⟩
      obtain ⟨hst, hrest⟩ := List.forall_mem_cons.1 hget
      exact .cons (Prod.ext hst state) (ih.2 ⟨hrest, rfl⟩)

/-- An entry is sampled exactly with the counts that it has to give in the state in which its
address has been read. -/
theorem visit_eq_sampled_iff {s' : σ} (h : c.AnswersPurely s') {label : Value κ} {cache : χ}
    {uri : Value κ} (read : (c.managerUri cache).runFrom s = (.ok uri, s')) {k : Counts} :
    (c.visit label cache).runFrom s = (.ok (.sampled k), t) ↔
      ((c.outlook s').withUri uri).Gives (label, cache) k ∧ t = s' := by
  rw [Collector.visit_eq_sampled_iff]
  constructor
  · rintro ⟨n, u, hn, hr⟩
    obtain ⟨uri', hu, hname⟩ := nameFor_eq_ok_iff.1 hn
    cases read.symm.trans hu
    obtain ⟨pattern, answer, u, ha, truth, reads⟩ := readStatistics_eq_some_iff.1 hr
    have state := h.isRegistered n
    rw [ha] at state
    cases state
    obtain ⟨counts, rfl⟩ := h.reads_iff.1 reads
    exact ⟨⟨n, ⟨uri, rfl, hname⟩, pattern, ⟨answer, congrArg Prod.fst ha, truth⟩,
      fun st => counts st (Statistic.mem_all st)⟩, rfl⟩
  · rintro ⟨⟨n, ⟨_, ⟨⟩, hname⟩, pattern, ⟨answer, ha, truth⟩, counts⟩, rfl⟩
    refine ⟨n, t, nameFor_eq_ok_iff.2 ⟨uri, read, hname⟩, ?_⟩
    exact readStatistics_eq_some_iff.2 ⟨pattern, answer, t, Prod.ext ha (h.isRegistered n), truth,
      h.reads_iff.2 ⟨fun st _ => counts st, rfl⟩⟩

end AnswersPurely

end Collector

end CacheTelemetry
