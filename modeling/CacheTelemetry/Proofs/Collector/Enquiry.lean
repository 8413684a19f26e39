import CacheTelemetry.Proofs.Collector.Asking
import CacheTelemetry.Proofs.Collector.Trace
import CacheTelemetry.Proofs.Collector.Visits

/-!
# The enquiries of a scrape

The calls of the registry that a visit makes follow a protocol, whatever comes back: none for a
pattern; otherwise one question whether the name is registered and, if it is, one read for each
count in their order, up to the first that fails or gives no integer (`Enquiry`).

**The calls of a scrape are those of its visits, one after the other** (`calls_eq_flatMap`), **and
each visit that composes a name makes the calls of an enquiry about it** (`enquiry_callsAbout`).
-/

namespace CacheTelemetry

/-- The calls that read counts under a name, one after the other: each gives an integer, but for the
last, after which no other is made. -/
inductive ReadOut {κ : Type} (n : ObjectName) : List Statistic → List (RegistryCall κ) → Prop where
  | done : ReadOut n [] []
  | next {st : Statistic} {rest : List Statistic} {calls : List (RegistryCall κ)} (i : Int)
    (others : ReadOut n rest calls) :
    ReadOut n (st :: rest) (.read n st.attrName (.ok (.int i)) :: calls)
  | stopped {st : Statistic} {rest : List Statistic} {answer : Except Fault (Value κ)}
    (noCount : ∀ i, answer ≠ .ok (.int i)) :
    ReadOut n (st :: rest) [.read n st.attrName answer]

/-- The calls that find out the counts under a name. -/
inductive Enquiry {κ : Type} (n : ObjectName) : List (RegistryCall κ) → Prop where
  | pattern (pattern : n.isPattern = true) : Enquiry n []
  | failed (name : n.isPattern = false) (f : Fault) : Enquiry n [.query n (.error f)]
  | unregistered (name : n.isPattern = false) {answer : Value κ} (truth : answer.truth = false) :
    Enquiry n [.query n (.ok answer)]
  | registered (name : n.isPattern = false) {answer : Value κ} {reads : List (RegistryCall κ)}
    (truth : answer.truth = true) (readOut : ReadOut n Statistic.all reads) :
    Enquiry n (.query n (.ok answer) :: reads)

namespace Collector

open Effect

variable {σ κ χ γ : Type} [BEq κ] {c : Collector σ κ χ} {n : ObjectName} {s t : σ}

/-! ### States of questions -/

/-- A name is composed in the state that the address leaves. -/
theorem runFrom_nameFor_snd (c : Collector σ κ χ) (label : Value κ) (cache : χ) (s : σ) :
    ((c.nameFor label cache).runFrom s).2 = ((c.managerUri cache).runFrom s).2 := by
  rcases read : (c.managerUri cache).runFrom s with ⟨f | uri, t⟩
  · rw [nameFor_eq, runFrom_bind_of_error read]
  · rw [runFrom_nameFor read]

/-! ### Notes -/

section

variable {d : Collector (σ × List γ) κ χ} (silent : ∀ w p, ((d.wording w).runFrom p).2.2 = p.2)

include silent

/-- Putting something into words leaves no notes where foreign texts leave none. -/
theorem notes_say (w : Wordable κ) (p : σ × List γ) :
    ((d.wording.say w).runFrom p).2.2 = p.2 := by
  unfold Wording.say
  split
  · exact silent w p
  · rfl

/-- A count is read with the notes of its attribute. -/
theorem notes_readCount (n : ObjectName) (st : Statistic) (p : σ × List γ) :
    ((d.readCount n st).runFrom p).2.2 = ((d.readAttribute n st.attrName).runFrom p).2.2 := by
  have said : ∀ {w : Wordable κ} {wrap : String → Fault} {q : σ × List γ},
      ((d.wording.say w >>= fun text => pure (wrap text)).runFrom q).2.2 = q.2 := by
    intro w wrap q
    rw [runFrom_bind_pure_snd, notes_say silent]
  rcases ran : (d.readCount n st).runFrom p with ⟨f | i, t⟩
  · rcases readCount_eq_error_iff.1 ran with
      (⟨e, q, failed, -, ended⟩ | ⟨failed, -⟩) | ⟨v, q, read, -, ended⟩
    · rw [failed, ← ended.state]
      exact said
    · rw [failed]
    · rw [read, ← ended.state]
      exact said
  · rw [readCount_eq_ok_iff.1 ran]

/-- A name is asked for with the notes of the registry's answer. -/
theorem notes_hasStatistics (n : ObjectName) (p : σ × List γ) :
    ((d.hasStatistics n).runFrom p).2.2 = ((d.isRegistered n).runFrom p).2.2 := by
  rcases ran : (d.hasStatistics n).runFrom p with ⟨f | b, t⟩
  · rcases hasStatistics_eq_error_iff.1 ran with ⟨e, q, failed, -, ended⟩ | ⟨failed, -⟩
    · rw [failed, ← ended.state]
      exact (congrArg Prod.snd (runFrom_bind_pure_snd _ _ q)).trans (notes_say silent _ q)
    · rw [failed]
  · obtain ⟨answer, asked, -⟩ := hasStatistics_eq_ok_iff.1 ran
    rw [asked]

end

/-- What is noted while counts are read, if each read adds to the notes that the later reads leave,
or leaves notes that are the last. -/
theorem exists_notes_mapM_readCount {d : Collector (σ × List γ) κ χ}
    {Q : List Statistic → List γ → Prop} (nil : Q [] [])
    (read : ∀ st p, ∃ notes, ((d.readCount n st).runFrom p).2.2 = p.2 ++ notes ∧
      (∀ i, ((d.readCount n st).runFrom p).1 = .ok i →
        ∀ rest later, Q rest later → Q (st :: rest) (notes ++ later)) ∧
      ∀ f, ((d.readCount n st).runFrom p).1 = .error f → ∀ rest, Q (st :: rest) notes)
    (sts : List Statistic) (p : σ × List γ) :
    ∃ notes, ((sts.mapM (d.readCount n)).runFrom p).2.2 = p.2 ++ notes ∧ Q sts notes := by
  induction sts generalizing p with
  | nil => exact ⟨[], (List.append_nil _).symm, nil⟩
  | cons st rest ih =>
    obtain ⟨notes, noted, goesOn, ends⟩ := read st p
    rw [List.mapM_cons]
    rcases ran : (d.readCount n st).runFrom p with ⟨f | i, q⟩ <;> rw [ran] at noted goesOn ends
    · refine ⟨notes, ?_, ends f rfl rest⟩
      rw [runFrom_bind_of_error ran, noted]
    · obtain ⟨later, noted', all⟩ := ih q
      refine ⟨notes ++ later, ?_, goesOn i rfl rest later all⟩
      rw [runFrom_bind_of_ok ran, runFrom_bind_pure_snd, noted', noted, List.append_assoc]

/-- Where reading addresses and writing records leave no notes, the notes of a visit are those of
the look for statistics. -/
theorem notes_visit {d : Collector (σ × List γ) κ χ} {e : Value κ × χ} {p q : σ × List γ}
    (log : ∀ record r, (d.log record r).2 = r.2)
    (named : (d.nameFor e.1 e.2).runFrom p = (.ok n, q)) :
    ((d.visit e.1 e.2).runFrom p).2.2 = ((d.readStatistics n).runFrom q).2.2 := by
  rw [runFrom_visit named]
  rcases (d.readStatistics n).runFrom q with ⟨f | _ | k, r⟩
  · dsimp only
    rw [handleFailure, runFrom_get_bind]
    split
    · exact log _ r
    · rfl
  · exact log _ r
  · rfl

/-- A visit leaves no notes if its entry has no name, and else those of the look for statistics. -/
theorem notesOf_cases {d : Collector (σ × List γ) κ χ} (e : Value κ × χ) (s : σ)
    (address : ∀ x p, ((d.managerUri x).runFrom p).2.2 = p.2)
    (log : ∀ record r, (d.log record r).2 = r.2) :
    (∃ f q, (d.nameFor e.1 e.2).runFrom (s, []) = (.error f, q) ∧ d.notesOf e s = []) ∨
      ∃ n q, (d.nameFor e.1 e.2).runFrom (s, []) = (.ok n, q) ∧ q.2 = [] ∧
        d.notesOf e s = ((d.readStatistics n).runFrom q).2.2 := by
  have unnoted : ((d.nameFor e.1 e.2).runFrom (s, [])).2.2 = [] := by
    rw [runFrom_nameFor_snd]
    exact address e.2 (s, [])
  rcases named : (d.nameFor e.1 e.2).runFrom (s, []) with ⟨f | n, q⟩ <;> rw [named] at unnoted
  · refine .inl ⟨f, q, rfl, ?_⟩
    rw [notesOf, visit, runFrom_bind_of_error named]
    exact unnoted
  · exact .inr ⟨n, q, rfl, unnoted, notes_visit log named⟩

/-! ### Calls -/

/-- The calls of the registry that the visit of an entry makes. -/
def callsAbout (c : Collector σ κ χ) (e : Value κ × χ) (s : σ) : List (RegistryCall κ) :=
  c.traced.notesOf e s

theorem traced_notes (c : Collector σ κ χ) : Notes c.traced c fun _ => True where
  roster _ := rfl
  erases :=
    { settings := fun h => (traced_simulates c).settings h.1
      managerUri := fun h x =>
        have ⟨outcome, state⟩ := (traced_simulates c).managerUri h.1 x
        ⟨outcome, state, trivial⟩
      isRegistered := fun h n =>
        have ⟨outcome, state⟩ := (traced_simulates c).isRegistered h.1 n
        ⟨outcome, state, trivial⟩
      readAttribute := fun h n st =>
        have ⟨outcome, state⟩ := (traced_simulates c).readAttribute h.1 n st
        ⟨outcome, state, trivial⟩
      wording := fun h w =>
        have ⟨outcome, state⟩ := (traced_simulates c).wording h.1 w
        ⟨outcome, state, trivial⟩
      log := fun h record => ⟨(traced_simulates c).log h.1 record, trivial⟩ }
  appends _ :=
    { settings := fun h => congrArg c.settings h.1
      managerUri := fun h x => h.beside (c.managerUri x)
      isRegistered := fun h n => h.noting (.query n) (c.isRegistered n)
      readAttribute := fun h n st => h.noting (.read n st.attrName) (c.readAttribute n st.attrName)
      wording := fun h w => h.beside (c.wording w)
      log := fun h record => ⟨congrArg (c.log record) h.1, h.2⟩ }

/-- The calls of a scrape are those of its visits, one after the other. -/
theorem calls_eq_flatMap (c : Collector σ κ χ) (s : σ) :
    c.calls s = (c.visits s).flatMap fun v => c.callsAbout v.1 v.2 :=
  (traced_notes c).collect trivial

/-- Reading counts one after the other makes the calls of a read-out. -/
theorem exists_readOut (n : ObjectName) (sts : List Statistic) (p : σ × List (RegistryCall κ)) :
    ∃ calls, ((sts.mapM (c.traced.readCount n)).runFrom p).2.2 = p.2 ++ calls ∧
      ReadOut n sts calls := by
  refine exists_notes_mapM_readCount .done (fun st p => ?_) sts p
  have counted : ∀ i, ((c.traced.readCount n st).runFrom p).1 = .ok i ↔
      ((c.readAttribute n st.attrName).runFrom p.1).1 = .ok (.int i) := by
    intro i
    constructor
    · intro ok
      exact congrArg Prod.fst (readCount_eq_ok_iff.1 (Prod.ext ok rfl))
    · intro ok
      have read : (c.traced.readAttribute n st.attrName).runFrom p =
          (.ok (.int i), ((c.traced.readAttribute n st.attrName).runFrom p).2) := Prod.ext ok rfl
      exact congrArg Prod.fst (readCount_eq_ok_iff.2 read)
  refine ⟨[.read n st.attrName ((c.readAttribute n st.attrName).runFrom p.1).1], ?_, ?_, ?_⟩
  · rw [notes_readCount fun _ _ => rfl]
    rfl
  · intro i ok rest later readOut
    rw [(counted i).1 ok]
    exact .next i readOut
  · intro f failed rest
    refine .stopped fun i integer => ?_
    cases ((counted i).2 integer).symm.trans failed

/-- Looking for statistics makes the calls of an enquiry. -/
theorem exists_enquiry (n : ObjectName) (p : σ × List (RegistryCall κ)) :
    ∃ calls, ((c.traced.readStatistics n).runFrom p).2.2 = p.2 ++ calls ∧ Enquiry n calls := by
  rcases name : n.isPattern with _ | _
  case true =>
    refine ⟨[], ?_, .pattern name⟩
    rw [readStatistics, if_pos name, List.append_nil]
    rfl
  -- the question is noted whatever comes back, and before any read
  have noted : ((c.traced.hasStatistics n).runFrom p).2.2 =
      p.2 ++ [.query n ((c.isRegistered n).runFrom p.1).1] := by
    rw [notes_hasStatistics fun _ _ => rfl]
    rfl
  rw [readStatistics, if_neg (by simp [name])]
  rcases ran : (c.traced.hasStatistics n).runFrom p with ⟨f | _ | _, q⟩ <;> rw [ran] at noted
  · obtain ⟨g, answer⟩ : ∃ g, ((c.isRegistered n).runFrom p.1).1 = .error g := by
      rcases hasStatistics_eq_error_iff.1 ran with ⟨g, _, failed, -⟩ | ⟨failed, -⟩
      · exact ⟨g, congrArg Prod.fst failed⟩
      · exact ⟨f, congrArg Prod.fst failed⟩
    rw [answer] at noted
    refine ⟨_, ?_, .failed name g⟩
    rw [runFrom_bind_of_error ran]
    exact noted
  · obtain ⟨v, asked, truth⟩ := hasStatistics_eq_ok_iff.1 ran
    have answer : ((c.isRegistered n).runFrom p.1).1 = .ok v := congrArg Prod.fst asked
    rw [answer] at noted
    refine ⟨_, ?_, .unregistered name truth⟩
    rw [runFrom_bind_of_ok ran]
    exact noted
  · obtain ⟨v, asked, truth⟩ := hasStatistics_eq_ok_iff.1 ran
    have answer : ((c.isRegistered n).runFrom p.1).1 = .ok v := congrArg Prod.fst asked
    rw [answer] at noted
    obtain ⟨reads, read, readOut⟩ := exists_readOut (c := c) n Statistic.all q
    refine ⟨.query n (.ok v) :: reads, ?_, .registered name truth readOut⟩
    rw [runFrom_bind_of_ok ran, if_pos rfl, runFrom_bind_pure_snd, readAll_eq_mapM,
      runFrom_bind_pure_snd, read, noted, List.append_assoc]
    rfl

/-- **The visit of an entry makes the calls of an enquiry about its name**, or none if the name is
not composed. -/
theorem enquiry_callsAbout (c : Collector σ κ χ) (e : Value κ × χ) (s : σ) :
    (∀ n t, (c.nameFor e.1 e.2).runFrom s = (.ok n, t) → Enquiry n (c.callsAbout e s)) ∧
      ∀ f t, (c.nameFor e.1 e.2).runFrom s = (.error f, t) → c.callsAbout e s = [] := by
  have outcome := ((traced_simulates c).nameFor (s := (s, [])) (t := s) rfl e.1 e.2).1
  rcases c.traced.notesOf_cases e s (fun _ _ => rfl) (fun _ _ => rfl) with
    ⟨f, q, unnamed, none⟩ | ⟨n, q, named, start, looked⟩
  · rw [unnamed] at outcome
    refine ⟨fun n t composed => ?_, fun _ _ _ => none⟩
    rw [composed] at outcome
    cases outcome
  · rw [named] at outcome
    refine ⟨fun n' t composed => ?_, fun f t failed => ?_⟩
    · rw [composed] at outcome
      cases outcome
      obtain ⟨calls, noted, enquiry⟩ := exists_enquiry (c := c) n q
      rw [start] at noted
      rw [callsAbout, looked, noted]
      exact enquiry
    · rw [failed] at outcome
      cases outcome

/-- The counts of a cache that is sampled are what the calls of its visit gave. -/
theorem callsAbout_of_sampled {e : Value κ × χ} {k : Counts}
    (sampled : (c.visit e.1 e.2).runFrom s = (.ok (.sampled k), t)) :
    ∃ n answer,
      c.callsAbout e s = .query n (.ok answer) :: countCalls n k.get Statistic.all := by
  have noted := ((traced_notes c).visit (s := s) trivial e []).1
  rw [sampled] at noted
  obtain ⟨n, p, named, looked⟩ := visit_eq_sampled_iff.1 noted
  obtain ⟨-, answer, q, asked, -, reads⟩ := readStatistics_eq_some_iff.1 looked
  have start : p.2 = [] := by
    have address := runFrom_nameFor_snd c.traced e.1 e.2 (s, [])
    rw [named] at address
    exact congrArg Prod.snd address
  have question : q.2 = [.query n (.ok answer)] := by
    obtain ⟨outcome, state⟩ := Prod.mk.inj asked
    rw [← state, ← outcome, start]
    rfl
  refine ⟨n, answer, ?_⟩
  have calls := reads.calls_eq
  rw [question] at calls
  exact calls

end Collector

end CacheTelemetry
