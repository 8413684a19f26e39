import CacheTelemetry.Proofs.Collector.Outlook
import CacheTelemetry.Proofs.Collector.Simulation

/-!
# Scrapes of a world that holds still

A collector is *steady* in a state if its outlook stays the same throughout a scrape, whatever the
reads and the log records do to the state otherwise.

From a steady state **a scrape is a function of the roster and the outlook** (`Steady.collect_eq`):
it ends as the walk of the collector `Outlook.still`, which gives the answers of the outlook
forever. For that collector each of the four cases of an entry has its equation.
-/

namespace CacheTelemetry

namespace Outlook

open Collector Effect

variable {κ χ : Type} [BEq κ] {o : Outlook κ χ}

/-- A collector whose foreign code gives the answers of an outlook and does nothing else. Its state
is its log. -/
def still (o : Outlook κ χ) (roster : Roster κ χ) : Collector (List LogRecord) κ χ where
  roster _ := roster
  setRoster _ records := records
  settings _ := o.settings
  cacheName _ := pure .null
  managerUri x := Effect.ofExcept (o.uri x)
  isRegistered n := Effect.ofExcept (o.isRegistered n)
  readAttribute n attr :=
    match Statistic.all.find? fun st => st.attrName == attr with
    | some st => Effect.ofExcept (o.attr n st)
    | none => throw (.noSuchAttribute n attr none)
  wording w := Effect.ofExcept (o.word w)
  log record records := records ++ [record]

/-- What a walk over entries ends in, in a world that holds still. -/
def readings (o : Outlook κ χ) (entries : List (Value κ × χ)) :
    Except Fault (List (Reading κ)) :=
  (((o.still ∅).visitAll entries).runFrom []).1

variable {roster : Roster κ χ} {records records' : List LogRecord}

@[simp] theorem runFrom_still_managerUri (x : χ) :
    ((o.still roster).managerUri x).runFrom records = (o.uri x, records) := rfl

@[simp] theorem runFrom_still_isRegistered (n : ObjectName) :
    ((o.still roster).isRegistered n).runFrom records = (o.isRegistered n, records) := rfl

@[simp] theorem runFrom_still_readAttribute (n : ObjectName) (st : Statistic) :
    ((o.still roster).readAttribute n st.attrName).runFrom records = (o.attr n st, records) := by
  cases st <;> rfl

@[simp] theorem runFrom_still_wording (w : Wordable κ) :
    ((o.still roster).wording w).runFrom records = (o.word w, records) := rfl

/-- Putting something into words leaves no trace. -/
theorem runFrom_still_say (w : Wordable κ) :
    ((o.still roster).wording.say w).runFrom records = (o.said w, records) := by
  unfold Wording.say said
  split <;> rfl

theorem answersPurely_still : (o.still roster).AnswersPurely records where
  isRegistered _ := rfl
  readAttribute n st := by rw [runFrom_still_readAttribute]

@[simp] theorem outlook_still : (o.still roster).outlook records = o := by
  simp only [outlook, runFrom_still_managerUri, runFrom_still_isRegistered,
    runFrom_still_readAttribute, runFrom_still_wording]
  rfl

/-- The name of an entry is composed without a trace. -/
theorem runFrom_still_nameFor {e : Value κ × χ} {uri : Value κ} (h : o.uri e.2 = .ok uri) :
    ((o.still roster).nameFor e.1 e.2).runFrom records = (o.settings.nameOf uri e.1, records) :=
  runFrom_nameFor (by rw [runFrom_still_managerUri, h])

theorem runFrom_still_nameFor_of_names {e : Value κ × χ} {n : ObjectName} (h : o.Names e n) :
    ((o.still roster).nameFor e.1 e.2).runFrom records = (.ok n, records) := by
  obtain ⟨uri, hu, hn⟩ := h
  rw [runFrom_still_nameFor hu, hn]

/-! ### The four cases of an entry -/

/-- The visit of a malformed entry fails. -/
theorem visit_of_isMalformed {e : Value κ × χ} {uri : Value κ} (hu : o.uri e.2 = .ok uri)
    {f : Fault} (hn : o.settings.nameOf uri e.1 = .error f) :
    ((o.still roster).visit e.1 e.2).runFrom records = (.error f, records) := by
  have named : ((o.still roster).nameFor e.1 e.2).runFrom records = (.error f, records) := by
    rw [runFrom_still_nameFor hu, hn]
  rw [visit, runFrom_bind_of_error named]

/-- An entry is sampled exactly with the counts that it has to give. -/
theorem visit_still_eq_sampled_iff {e : Value κ × χ} {uri : Value κ} (hu : o.uri e.2 = .ok uri)
    {k : Counts} :
    ((o.still roster).visit e.1 e.2).runFrom records = (.ok (.sampled k), records') ↔
      o.counts? e = some k ∧ records' = records := by
  have read : ((o.still roster).managerUri e.2).runFrom records = (.ok uri, records) := by
    rw [runFrom_still_managerUri, hu]
  rw [answersPurely_still.visit_eq_sampled_iff read, outlook_still, ← counts?_eq_some_iff,
    counts?_withUri hu]

/-- The absence of statistics is noted, and nothing else. -/
theorem visit_of_isAbsent {e : Value κ × χ} (h : o.IsAbsent e) :
    ∃ records', ((o.still roster).visit e.1 e.2).runFrom records =
      (.ok .unregistered, records') := by
  obtain ⟨n, names, cases⟩ := h
  have none : ((o.still roster).readStatistics n).runFrom records = (.ok none, records) := by
    refine readStatistics_eq_none_iff.2 ?_
    rcases cases with pattern | ⟨pattern, answer, ha, truth⟩
    · exact .inl ⟨pattern, rfl⟩
    · refine .inr ⟨pattern, answer, ?_, truth⟩
      rw [runFrom_still_isRegistered, ha]
  rw [runFrom_visit (runFrom_still_nameFor_of_names names), none]
  exact ⟨_, rfl⟩

/-- The counts to which it comes in an outlook are read without a trace. -/
theorem exists_mapM_readCount {n : ObjectName} {sts : List Statistic}
    (integers : ∀ st ∈ sts, ∃ i, o.attr n st = .ok (.int i)) :
    ∃ is, (sts.mapM ((o.still roster).readCount n)).runFrom records = (.ok is, records) := by
  induction sts with
  | nil => exact ⟨[], rfl⟩
  | cons st rest ih =>
    obtain ⟨⟨i, given⟩, others⟩ := List.forall_mem_cons.1 integers
    obtain ⟨is, read⟩ := ih others
    have first : ((o.still roster).readCount n st).runFrom records = (.ok i, records) :=
      readCount_eq_ok_iff.2 (by rw [runFrom_still_readAttribute, given])
    refine ⟨i :: is, ?_⟩
    rw [List.mapM_cons, runFrom_bind_of_ok first, runFrom_bind_of_ok read]
    rfl

/-- The look for statistics ends in the fault of the question that fails. -/
theorem readStatistics_of_comesTo {n : ObjectName} {st : Statistic} {f : Fault}
    (pattern : n.isPattern = false) (registers : o.Registers n) (comes : o.ComesTo n st)
    (failed : ((o.still roster).readCount n st).runFrom records = (.error f, records)) :
    ((o.still roster).readStatistics n).runFrom records = (.error f, records) := by
  obtain ⟨answer, registered, truth⟩ := registers
  obtain ⟨before, after, all, integers⟩ := comes
  obtain ⟨is, read⟩ : ∃ is, (before.mapM ((o.still roster).readCount n)).runFrom records =
      (.ok is, records) := exists_mapM_readCount integers
  refine readStatistics_eq_error_iff.2 ⟨pattern, .inr ⟨answer, records, st, records, ?_, truth,
    ⟨before, after, is, all, read⟩, failed⟩⟩
  rw [runFrom_still_isRegistered, registered]

/-- The fault of a failure is a failure to read statistics if what the failure is about can be put
into words, and else the fault in which the words fail. -/
theorem exists_endsAs_of_said (roster : Roster κ χ) (records : List LogRecord) (w : Wordable κ)
    {make : String → Fault} (kind : ∀ text, (make text).kind = .statisticsRead) :
    ∃ f, EndsAs ((o.still roster).wording.say w >>= fun text => pure (make text)) records f
        records ∧
      ((∃ text, o.said w = .ok text) ∧ f.kind = .statisticsRead ∨ o.said w = .error f) := by
  simp only [endsAs_bind_pure_iff, runFrom_still_say]
  cases o.said w with
  | ok text => exact ⟨make text, .inl ⟨text, rfl, rfl⟩, .inl ⟨⟨text, rfl⟩, kind text⟩⟩
  | error g => exact ⟨g, .inr rfl, .inr rfl⟩

/-- A failing look for statistics ends in a failure to read them if what it has to say can be put
into words, and else as the words fail, provided that the registry fails with errors only. -/
theorem readStatistics_of_hasToSay (roster : Roster κ χ) (records : List LogRecord)
    (registry : ∀ n f, o.isRegistered n = .error f → f.isError = true)
    (attrs : ∀ n st f, o.attr n st = .error f → f.isError = true)
    {n : ObjectName} {w : Wordable κ} (pattern : n.isPattern = false) (toSay : o.HasToSay n w) :
    ∃ f, ((o.still roster).readStatistics n).runFrom records = (.error f, records) ∧
      ((∃ text, o.said w = .ok text) ∧ f.kind = .statisticsRead ∨ o.said w = .error f) := by
  cases toSay with
  | @query e failed =>
    obtain ⟨f, ended, which⟩ := exists_endsAs_of_said roster records (.error e)
      fun text => show (Fault.queryFailed n text e).kind = .statisticsRead from rfl
    refine ⟨f, readStatistics_eq_error_iff.2 ⟨pattern, .inl ?_⟩, which⟩
    refine hasStatistics_eq_error_iff.2 (.inl ⟨e, records, ?_, registry n e failed, ended⟩)
    rw [runFrom_still_isRegistered, failed]
  | @read st e registers comes failed =>
    obtain ⟨f, ended, which⟩ := exists_endsAs_of_said roster records (.error e)
      fun text => show (Fault.readFailed n st.attrName text e).kind = .statisticsRead from rfl
    refine ⟨f, readStatistics_of_comesTo pattern registers comes ?_, which⟩
    refine readCount_eq_error_iff.2 (.inl (.inl ⟨e, records, ?_, attrs n st e failed, ended⟩))
    rw [runFrom_still_readAttribute, failed]
  | @count st v registers comes given integer =>
    obtain ⟨f, ended, which⟩ := exists_endsAs_of_said roster records (.value v)
      fun shown => show (Fault.notCount n st.attrName shown).kind = .statisticsRead from rfl
    refine ⟨f, readStatistics_of_comesTo pattern registers comes ?_, which⟩
    refine readCount_eq_error_iff.2 (.inr ⟨v, records, ?_, integer, ended⟩)
    rw [runFrom_still_readAttribute, given]

end Outlook

namespace Collector

variable {σ κ χ : Type} [BEq κ] {c : Collector σ κ χ} {s t : σ}

/-- The outlook stays the same throughout a scrape. -/
def Steady (c : Collector σ κ χ) (s : σ) : Prop :=
  ∀ t, c.Reached s t → c.outlook t = c.outlook s

namespace Steady

/-- What holds still is steady. -/
theorem still (o : Outlook κ χ) (roster : Roster κ χ) (records : List LogRecord) :
    (o.still roster).Steady records := by
  intro records' _
  rw [Outlook.outlook_still, Outlook.outlook_still]

/-- A steady collector looks like the one that holds still. -/
theorem simulates (h : c.Steady s) (roster : Roster κ χ) :
    Simulates c ((c.outlook s).still roster) fun t _ => c.Reached s t where
  settings hR := congrArg Outlook.settings (h _ hR)
  managerUri hR x := ⟨congrFun (congrArg Outlook.uri (h _ hR)) x, hR.managerUri x⟩
  isRegistered hR n := ⟨congrFun (congrArg Outlook.isRegistered (h _ hR)) n, hR.isRegistered n⟩
  readAttribute hR n st := by
    refine ⟨?_, hR.readAttribute n st⟩
    rw [Outlook.runFrom_still_readAttribute]
    exact congrFun (congrFun (congrArg Outlook.attr (h _ hR)) n) st
  wording hR w := ⟨congrFun (congrArg Outlook.word (h _ hR)) w, hR.wording w⟩
  log hR record := hR.log record

/-- A scrape from a steady state is a function of the roster and the outlook. -/
theorem collect_eq (h : c.Steady s) :
    (c.collect.runFrom s).1 =
      ((c.outlook s).readings (c.roster s).entries).map Family.allOf := by
  rw [runFrom_collect]
  exact congrArg (Except.map Family.allOf)
    ((h.simulates ∅).visitAll (c.roster s).entries .start).1

end Steady

end Collector

end CacheTelemetry
