import CacheTelemetry.Proofs.Collector.Asking
import CacheTelemetry.Session.Run

/-!
# The documented errors of a scrape

Two kinds of errors are documented: a malformed name, and a failure to read statistics unless
failures are isolated. The questions to the registry are guarded, and what they raise is raised anew
as a failure to read statistics. Three things stand outside of the guards (`LeavesUnguarded`):

* the address of a manager is asked for;
* the address and the label of an entry are written, to compose a name of them;
* the error of the registry, or the value that is no integer, is put into words.

What leaves a scrape is documented or comes from one of these three
(`isDocumented_or_leavesUnguarded`), so **a scrape ends in documented errors only, exactly if what
it does outside of the guards raises no others** (`collect_documented_iff`).
-/

namespace CacheTelemetry

namespace Collector

open Effect

variable {σ κ χ : Type} [BEq κ] {c : Collector σ κ χ} {s t : σ} {n : ObjectName}
  {st : Statistic} {f : Fault}

/-- An error that a scrape is documented to end in, with the state that it leaves: a malformed name,
or a failure to read statistics where failures are not isolated. -/
def IsDocumented (c : Collector σ κ χ) (f : Fault) (s : σ) : Prop :=
  f.kind = .malformedName ∨ f.kind = .statisticsRead ∧ (c.settings s).isolateFailures = false

/-- A failure to read statistics cannot be put into words: the statistics under a name are looked
for from the state `s` on, and the words for what is to be reported fail. -/
inductive LacksWords (c : Collector σ κ χ) (n : ObjectName) (f : Fault) (s t : σ) : Prop where
  /-- The registry fails to say whether the name is registered. -/
  | query {e : Fault} {u : σ} (failed : (c.isRegistered n).runFrom s = (.error e, u))
    (error : e.isError = true) (unsaid : (c.wording.say (.error e)).runFrom u = (.error f, t))
  /-- It fails to give an attribute. -/
  | read {answer : Value κ} {st : Statistic} {e : Fault} {u v w : σ}
    (registered : (c.isRegistered n).runFrom s = (.ok answer, u)) (truth : answer.truth = true)
    (comes : c.ComesTo n st u v)
    (failed : (c.readAttribute n st.attrName).runFrom v = (.error e, w))
    (error : e.isError = true) (unsaid : (c.wording.say (.error e)).runFrom w = (.error f, t))
  /-- It gives a value that is no integer. -/
  | count {answer value : Value κ} {st : Statistic} {u v w : σ}
    (registered : (c.isRegistered n).runFrom s = (.ok answer, u)) (truth : answer.truth = true)
    (comes : c.ComesTo n st u v)
    (given : (c.readAttribute n st.attrName).runFrom v = (.ok value, w))
    (integer : ∀ i, value ≠ .int i)
    (unsaid : (c.wording.say (.value value)).runFrom w = (.error f, t))

/-- A scrape from `s` comes to do something that is not guarded, and that raises a fault which
leaves the scrape. -/
inductive LeavesUnguarded (c : Collector σ κ χ) (s : σ) (f : Fault) (t : σ) : Prop where
  /-- An address is asked for. -/
  | address {e : Value κ × χ} {u : σ} (asked : c.AsksAddress s e u)
    (raised : (c.managerUri e.2).runFrom u = (.error f, t))
  /-- An address or a label is to be written. -/
  | text {e : Value κ × χ} {uri : Value κ} {u : σ} (asked : c.AsksAddress s e u)
    (read : (c.managerUri e.2).runFrom u = (.ok uri, t))
    (unwritable : ¬ (uri.isWritable = true ∧ e.1.isWritable = true))
    (raised : f = .unwritable)
  /-- A failure is to be put into words. -/
  | words {n : ObjectName} {u : σ} (about : c.AsksAbout s n u) (pattern : n.isPattern = false)
    (unworded : c.LacksWords n f u t)
    (kept : ¬ (f.kind = .statisticsRead ∧ (c.settings t).isolateFailures = true))

/-! ### What a visit fails over -/

/-- The question for a name fails in a failure to read statistics, or for want of words. -/
theorem kind_or_lacksWords_of_hasStatistics
    (failed : (c.hasStatistics n).runFrom s = (.error f, t)) (error : f.isError = true) :
    f.kind = .statisticsRead ∨ c.LacksWords n f s t := by
  rcases hasStatistics_eq_error_iff.1 failed with ⟨e, u, failed, caught, ended⟩ | ⟨-, interrupted⟩
  · rcases endsAs_queryFault_iff.1 ended with ⟨said, -, rfl⟩ | unsaid
    · exact .inl rfl
    · exact .inr (.query failed caught unsaid)
  · cases error.symm.trans interrupted

/-- So does the question for a count. -/
theorem kind_or_lacksWords_of_readCount {answer : Value κ} {u v : σ}
    (registered : (c.isRegistered n).runFrom s = (.ok answer, u)) (truth : answer.truth = true)
    (comes : c.ComesTo n st u v) (failed : (c.readCount n st).runFrom v = (.error f, t))
    (error : f.isError = true) : f.kind = .statisticsRead ∨ c.LacksWords n f s t := by
  rcases readCount_eq_error_iff.1 failed with
    (⟨e, w, failed, caught, ended⟩ | ⟨-, interrupted⟩) | ⟨value, w, given, integer, ended⟩
  · rcases endsAs_readFault_iff.1 ended with ⟨said, -, rfl⟩ | unsaid
    · exact .inl rfl
    · exact .inr (.read registered truth comes failed caught unsaid)
  · cases error.symm.trans interrupted
  · rcases endsAs_countFault_iff.1 ended with ⟨shown, -, rfl⟩ | unsaid
    · exact .inl rfl
    · exact .inr (.count registered truth comes given integer unsaid)

/-- Where the words fail, the look for statistics does, with the same fault. -/
theorem LacksWords.readStatistics_eq_error (unworded : c.LacksWords n f s t)
    (pattern : n.isPattern = false) : (c.readStatistics n).runFrom s = (.error f, t) := by
  refine readStatistics_eq_error_iff.2 ⟨pattern, ?_⟩
  cases unworded with
  | query failed error unsaid =>
    exact .inl (hasStatistics_eq_error_iff.2
      (.inl ⟨_, _, failed, error, endsAs_queryFault_iff.2 (.inr unsaid)⟩))
  | read registered truth comes failed error unsaid =>
    exact .inr ⟨_, _, _, _, registered, truth, comes, readCount_eq_error_iff.2
      (.inl (.inl ⟨_, _, failed, error, endsAs_readFault_iff.2 (.inr unsaid)⟩))⟩
  | count registered truth comes given integer unsaid =>
    exact .inr ⟨_, _, _, _, registered, truth, comes, readCount_eq_error_iff.2
      (.inr ⟨_, _, given, integer, endsAs_countFault_iff.2 (.inr unsaid)⟩)⟩

/-! ### What a scrape ends in -/

/-- What leaves the unguarded part of a scrape ends the scrape, as it is. -/
theorem LeavesUnguarded.collect_eq_error (leaves : c.LeavesUnguarded s f t) :
    c.collect.runFrom s = (.error f, t) := by
  cases leaves with
  | address asked raised => exact asked.collect_eq_error raised
  | text asked read unwritable raised =>
    refine collect_eq_error_iff_asked.2 (.inl ⟨_, _, asked, nameFor_eq_error_iff.2 (.inr ?_)⟩)
    exact ⟨_, read, raised ▸ Settings.nameOf_of_not_isWritable unwritable _⟩
  | words about pattern unworded kept =>
    exact about.collect_eq_error (unworded.readStatistics_eq_error pattern) kept

/-- A name is not composed because of the address, because it would be malformed, or because the
address or the label cannot be written. -/
theorem isDocumented_or_leavesUnguarded_of_nameFor {e : Value κ × χ} {u : σ}
    (asked : c.AsksAddress s e u) (failed : (c.nameFor e.1 e.2).runFrom u = (.error f, t)) :
    c.IsDocumented f t ∨ c.LeavesUnguarded s f t := by
  rcases nameFor_eq_error_iff.1 failed with raised | ⟨uri, read, composed⟩
  · exact .inr (.address asked raised)
  by_cases written : uri.isWritable = true ∧ e.1.isWritable = true
  · obtain ⟨unusable, rfl⟩ := Settings.exists_unusable_of_nameOf written.1 written.2 composed
    exact .inl (.inl rfl)
  · rw [Settings.nameOf_of_not_isWritable written] at composed
    exact .inr (.text asked read written (Except.error.inj composed).symm)

/-- An error that leaves a scrape is documented, or leaves what is not guarded. -/
theorem isDocumented_or_leavesUnguarded (ended : c.collect.runFrom s = (.error f, t))
    (error : f.isError = true) : c.IsDocumented f t ∨ c.LeavesUnguarded s f t := by
  rcases collect_eq_error_iff_asked.1 ended with ⟨e, u, asked, unnamed⟩ | ⟨kept, failed⟩
  · exact isDocumented_or_leavesUnguarded_of_nameFor asked unnamed
  -- a failure to read statistics is documented, as it has not been isolated
  have unisolated (kind : f.kind = .statisticsRead) : c.IsDocumented f t :=
    .inr ⟨kind, Bool.not_eq_true _ ▸ fun isolated => kept ⟨kind, isolated⟩⟩
  rcases failed with ⟨n, u, about, pattern, failed⟩ |
    ⟨n, st, u, ⟨v, answer, w, about, pattern, registered, truth, comes⟩, failed⟩
  · exact (kind_or_lacksWords_of_hasStatistics failed error).imp unisolated
      fun unworded => .words about pattern unworded kept
  · exact (kind_or_lacksWords_of_readCount registered truth comes failed error).imp unisolated
      fun unworded => .words about pattern unworded kept

/-- **The errors that leave a scrape are documented exactly if those are that leave what is not
guarded.** Whatever the caches, the beans and the registry do, an error that a scrape ends in is a
malformed name, a failure to read statistics while failures are not isolated, the error of an
address that the scrape came to ask for, the fault of an address or a label that cannot be written,
or the error in which the words for a failure fail; and each of the last three ends the scrape. -/
theorem collect_documented_iff (c : Collector σ κ χ) (s : σ) :
    (∀ f t, c.collect.runFrom s = (.error f, t) → f.isError = true → c.IsDocumented f t) ↔
      ∀ f t, c.LeavesUnguarded s f t → f.isError = true → c.IsDocumented f t := by
  constructor
  · intro documented f t leaves error
    exact documented f t leaves.collect_eq_error error
  · intro unguarded f t ended error
    exact (isDocumented_or_leavesUnguarded ended error).elim id fun leaves =>
      unguarded f t leaves error

open Session in
/-- A collector that isolates failures, with one cache, whose manager fails to give its address. -/
def unreachableManager : World :=
  worldAfter
    [.newCache "c" (.text "users") (.raise .runtime "manager down"),
      .addCache "main" "c"]
    (.start { Settings.standard with isolateFailures := true } default)

/-- The error of the manager leaves the scrape as it is, although failures are isolated. -/
theorem collect_undocumented_unreachableManager :
    ¬ ∀ f t, (Session.collector 0).collect.runFrom unreachableManager = (.error f, t) →
      f.isError = true → (Session.collector 0).IsDocumented f t := by
  intro documented
  obtain ⟨f, ended, runtime⟩ :
      ∃ f, ((Session.collector 0).collect.runFrom unreachableManager).1 = .error f ∧
        f.kind = .runtime := exists_of_endsInKind (by decide +kernel)
  have error : f.isError = true := by rw [Fault.isError, runtime]; rfl
  rcases documented f _ (Prod.ext ended rfl) error with malformed | ⟨unread, -⟩
  · cases runtime.symm.trans malformed
  · cases runtime.symm.trans unread

end Collector

end CacheTelemetry
