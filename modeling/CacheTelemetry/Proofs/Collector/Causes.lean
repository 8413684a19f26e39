import CacheTelemetry.Proofs.Collector.Asking
import CacheTelemetry.Proofs.Collector.Hosted

/-!
# The causes of a failed scrape

A collector is *hosted* where its registry is a management registry that the states of the scrape
hold (`Collector.IsHosted`); the collectors of a session that read the registry of the process are
(`Session.isHosted_of_platform`). Such a registry *refuses* to give an attribute with an error
(`Host.Refuses`): the bean is gone, or it lacks the attribute, or it raises an error where an item
is accessed, a member is read or a callable is called. A count that is not read has met with a
*mishap* (`Host.Mishap`): the registry has refused, or has given a value that is no integer.

A failure passes two layers on its way out, the registry and the reader of counts, and each of them
may raise it anew, in words that take up the text of the error or of the value. **As long as there
are words, no cause is lost on that way** (`collect_keeps_causes`): the failure that leaves the
scrape has exactly the causes of the mishap, and among the first two of them is the error that the
bean raised, if it raised one.

The words are looked for while the failure is raised anew, and nothing guards that. If they fail,
the fault in which they fail *eclipses* the error in the registry (`Host.Eclipses`), and leaves the
reader of counts unreported (`Host.Wordless`).
-/

namespace CacheTelemetry

open Effect

/-- The first of the causes of a fault is the one that it was raised from, and the others are those
of the first. -/
theorem Fault.cause?_of_causes {f g : Fault} {rest : List Fault} (h : f.causes = g :: rest) :
    f.cause? = some g ∧ g.causes = rest := by
  rw [Fault.causes_eq] at h
  cases hc : f.cause? with
  | none =>
    rw [hc] at h
    cases h
  | some cause =>
    rw [hc] at h
    obtain ⟨rfl, rfl⟩ := List.cons.inj h
    exact ⟨rfl, rfl⟩

namespace Host

variable {σ κ β : Type} {h : Host σ κ β} {n : ObjectName} {attr : String} {s t u : σ}
  {e f g : Fault} {causes : List Fault}

/-- The bean under a name raises an error that is guarded: a member is read or a callable is called,
and that fails. -/
def RaisesGuarded (h : Host σ κ β) (n : ObjectName) (attr : String) (e : Fault) (s t : σ) : Prop :=
  ∃ bean, (h.registry s).get? n = some bean ∧ (h.view s bean).Raises h.call attr e s t ∧
    ¬ (h.view s bean).ItemRaises attr e s t ∧ e.isError = true

/-- The registry refuses to give an attribute, with an error. -/
inductive Refuses (h : Host σ κ β) (n : ObjectName) (attr : String) : Fault → σ → σ → Prop where
  /-- The bean is gone. -/
  | gone {s : σ} (absent : (h.registry s).get? n = none) : Refuses h n attr (.notRegistered n) s s
  /-- The bean does not have the attribute. An object says so by a fault, which is a cause. -/
  | missing {bean : β} {cause : Option Fault} {s t : σ} (found : (h.registry s).get? n = some bean)
    (lacks : (h.view s bean).Lacks attr cause s t) :
    Refuses h n attr (.noSuchAttribute n attr cause) s t
  /-- The access of an item raises an error, which the registry does not raise anew. -/
  | item {bean : β} {e : Fault} {s t : σ} (found : (h.registry s).get? n = some bean)
    (raised : (h.view s bean).ItemRaises attr e s t) (error : e.isError = true) :
    Refuses h n attr e s t
  /-- A member or a callable raises an error, which the registry raises anew in words. -/
  | operation {e : Fault} {said : String} {s t u : σ} (raised : h.RaisesGuarded n attr e s t)
    (words : (h.word.say (.error e)).runFrom t = (.ok said, u)) :
    Refuses h n attr (.attributeFailed n attr said e) s u

/-- Why an attribute is not read as a count, with the causes of the failure, nearest first. There
are words for what has happened. -/
inductive Mishap (h : Host σ κ β) (n : ObjectName) (attr : String) :
    List Fault → σ → σ → Prop where
  /-- The registry refuses to give it. -/
  | refused {g : Fault} {said : String} {s t u : σ} (refuses : h.Refuses n attr g s t)
    (words : (h.word.say (.error g)).runFrom t = (.ok said, u)) :
    Mishap h n attr (g :: g.causes) s u
  /-- The value is no integer; truth values are none. -/
  | notInteger {bean : β} {v : Value κ} {shown : String} {s t u : σ}
    (found : (h.registry s).get? n = some bean) (given : (h.view s bean).Gives h.call attr v s t)
    (integer : ∀ i, v ≠ .int i) (words : (h.word.say (.value v)).runFrom t = (.ok shown, u)) :
    Mishap h n attr [] s u

/-- The registry has no words for an error of the bean. The fault in which they fail is an error,
for which there are words. -/
inductive Eclipses (h : Host σ κ β) (n : ObjectName) (attr : String) (e g : Fault) :
    σ → σ → Prop where
  | intro {said : String} {s t u v : σ} (raised : h.RaisesGuarded n attr e s t)
    (unsaid : (h.word.say (.error e)).runFrom t = (.error g, u)) (error : g.isError = true)
    (words : (h.word.say (.error g)).runFrom u = (.ok said, v)) : Eclipses h n attr e g s v

/-- There are no words for the failure of a count. The words fail with `f`, which no one reports. -/
inductive Wordless (h : Host σ κ β) (n : ObjectName) (attr : String) (f : Fault) :
    σ → σ → Prop where
  /-- The registry refuses to give it, with an error that cannot be put into words. -/
  | refused {g : Fault} {s t u : σ} (refuses : h.Refuses n attr g s t)
    (unsaid : (h.word.say (.error g)).runFrom t = (.error f, u)) : Wordless h n attr f s u
  /-- The value is no integer, and cannot be put into words. -/
  | notInteger {bean : β} {v : Value κ} {s t u : σ} (found : (h.registry s).get? n = some bean)
    (given : (h.view s bean).Gives h.call attr v s t) (integer : ∀ i, v ≠ .int i)
    (unsaid : (h.word.say (.value v)).runFrom t = (.error f, u)) : Wordless h n attr f s u
  /-- The registry has no words for an error of the bean, and there are none for the error in which
  these fail. -/
  | again {e g : Fault} {s t u v : σ} (raised : h.RaisesGuarded n attr e s t)
    (eclipsed : (h.word.say (.error e)).runFrom t = (.error g, u)) (error : g.isError = true)
    (unsaid : (h.word.say (.error g)).runFrom u = (.error f, v)) : Wordless h n attr f s v
  /-- The search for words is interrupted. -/
  | interrupted {e : Fault} {s t u : σ} (raised : h.RaisesGuarded n attr e s t)
    (unsaid : (h.word.say (.error e)).runFrom t = (.error f, u)) (interrupted : f.isError = false) :
    Wordless h n attr f s u

/-- The bean under a name raises an error, and there are words for it. Where an object says that it
has no such member none are needed. -/
inductive RaisesInWords (h : Host σ κ β) (n : ObjectName) (attr : String) (e : Fault) :
    σ → σ → Prop where
  | raised {bean : β} {said : String} {s t u : σ} (found : (h.registry s).get? n = some bean)
    (raises : (h.view s bean).Raises h.call attr e s t) (error : e.isError = true)
    (words : (h.word.say (.error e)).runFrom t = (.ok said, u)) : RaisesInWords h n attr e s u
  | member {bean : β} {s t : σ} (found : (h.registry s).get? n = some bean)
    (lacks : (h.view s bean).Lacks attr (some e) s t) : RaisesInWords h n attr e s t

/-! ### What the registry answers -/

/-- The library has words for its own faults. -/
theorem runFrom_say_of_not_isForeign {word : Wording σ κ} {w : Wordable κ}
    (own : w.isForeign = false) (s : σ) : (word.say w).runFrom s = (.ok w.text, s) := by
  rw [Wording.say, own]
  rfl

/-- A guarded error is raised anew, in words or for want of them. -/
theorem RaisesGuarded.readAttribute_eq_error_iff (raised : h.RaisesGuarded n attr e s t) :
    (h.readAttribute n attr).runFrom s = (.error g, u) ↔
      (BeanView.operationFault h.word n attr e).EndsAs t g u := by
  obtain ⟨bean, found, raises, guarded, error⟩ := raised
  rw [runFrom_readAttribute, Registry.readAttribute_of_some found,
    raises.read_eq_error_iff guarded]
  simp [error]

/-- What the making of the registry's fault ends as. -/
theorem endsAs_operationFault_iff {word : Wording σ κ} :
    (BeanView.operationFault word n attr e).EndsAs t g u ↔
      (∃ said, (word.say (.error e)).runFrom t = (.ok said, u) ∧
          g = .attributeFailed n attr said e) ∨
        (word.say (.error e)).runFrom t = (.error g, u) :=
  endsAs_bind_pure_iff

theorem Refuses.runFrom_readAttribute (refuses : h.Refuses n attr g s t) :
    (h.readAttribute n attr).runFrom s = (.error g, t) := by
  cases refuses with
  | gone absent => exact Registry.runFrom_readAttribute_of_none absent
  | missing found lacks =>
    rw [Host.runFrom_readAttribute, Registry.readAttribute_of_some found, lacks.runFrom_read]
  | item found raised error =>
    rw [Host.runFrom_readAttribute, Registry.readAttribute_of_some found, raised.runFrom_read]
  | operation raised words =>
    exact raised.readAttribute_eq_error_iff.2 (endsAs_operationFault_iff.2 (.inl ⟨_, words, rfl⟩))

theorem Refuses.isError (refuses : h.Refuses n attr g s t) : g.isError = true := by
  cases refuses with
  | item _ _ error => exact error
  | _ => rfl

/-- A read of the registry that ends in an error is refused, or there are no words for the error of
the bean. -/
theorem refuses_or_unsaid (failed : (h.readAttribute n attr).runFrom s = (.error g, u))
    (error : g.isError = true) :
    h.Refuses n attr g s u ∨ ∃ e t, h.RaisesGuarded n attr e s t ∧
      (h.word.say (.error e)).runFrom t = (.error g, u) := by
  rw [runFrom_readAttribute] at failed
  rcases found : (h.registry s).get? n with _ | bean
  · cases (Registry.runFrom_readAttribute_of_none found).symm.trans failed
    exact .inl (.gone found)
  rw [Registry.readAttribute_of_some found] at failed
  cases BeanView.fails_of_read failed with
  | lacks lacks eq => exact .inl (eq ▸ .missing found lacks)
  | item raised => exact .inl (.item found raised error)
  | @anew e t raises guarded caught ended =>
    have raised : h.RaisesGuarded n attr e s t := ⟨bean, found, raises, guarded, caught⟩
    rcases endsAs_operationFault_iff.1 ended with ⟨said, words, rfl⟩ | unsaid
    · exact .inl (.operation raised words)
    · exact .inr ⟨e, t, raised, unsaid⟩
  | interrupt _ interrupted => cases error.symm.trans interrupted

/-- An error of the bean for which there are words is the first or the second cause of a mishap. -/
theorem RaisesInWords.mishap (raises : h.RaisesInWords n attr e s t) :
    h.Mishap n attr (e :: e.causes) s t ∨ ∃ g, h.Mishap n attr (g :: e :: e.causes) s t := by
  cases raises with
  | @raised bean said _ u _ found raises error words =>
    by_cases item : (h.view s bean).ItemRaises attr e s u
    · exact .inl (.refused (.item found item error) words)
    · have raised : h.RaisesGuarded n attr e s u := ⟨bean, found, raises, item, error⟩
      exact .inr ⟨_, .refused (.operation raised words) (runFrom_say_of_not_isForeign rfl _)⟩
  | member found lacks =>
    exact .inr ⟨_, .refused (.missing found lacks) (runFrom_say_of_not_isForeign rfl _)⟩

end Host

namespace Collector

variable {σ κ χ β : Type} [BEq κ] {c : Collector σ κ χ} {h : Host σ κ β} {s t u : σ}
  {n : ObjectName} {st : Statistic} {f g : Fault} {causes : List Fault}

section

variable (hosted : (c.readAttribute n st.attrName).runFrom s =
    (h.readAttribute n st.attrName).runFrom s) (worded : c.wording = h.word)

include hosted worded

/-- An error of the registry for which there are words is the cause of the failure. -/
theorem readCount_of_said {said : String}
    (failed : (h.readAttribute n st.attrName).runFrom s = (.error g, t)) (error : g.isError = true)
    (words : (h.word.say (.error g)).runFrom t = (.ok said, u)) :
    ∃ f, (c.readCount n st).runFrom s = (.error f, u) ∧ f.kind = .statisticsRead ∧
      f.causes = g :: g.causes := by
  refine ⟨.readFailed n st.attrName said g, ?_, rfl, rfl⟩
  refine readCount_eq_error_iff.2 (.inl (.inl ⟨g, t, hosted ▸ failed, error, ?_⟩))
  exact endsAs_readFault_iff.2 (.inl ⟨said, worded ▸ words, rfl⟩)

/-- An error of the registry for which there are no words is not reported. -/
theorem readCount_of_unsaid
    (failed : (h.readAttribute n st.attrName).runFrom s = (.error g, t)) (error : g.isError = true)
    (unsaid : (h.word.say (.error g)).runFrom t = (.error f, u)) :
    (c.readCount n st).runFrom s = (.error f, u) := by
  refine readCount_eq_error_iff.2 (.inl (.inl ⟨g, t, hosted ▸ failed, error, ?_⟩))
  exact endsAs_readFault_iff.2 (.inr (worded ▸ unsaid))

/-- The failure of a count has the causes of the mishap. -/
theorem readCount_of_mishap (mishap : h.Mishap n st.attrName causes s t) :
    ∃ f, (c.readCount n st).runFrom s = (.error f, t) ∧ f.kind = .statisticsRead ∧
      f.causes = causes := by
  cases mishap with
  | refused refuses words =>
    exact readCount_of_said hosted worded refuses.runFrom_readAttribute refuses.isError words
  | @notInteger bean v shown _ w _ found given integer words =>
    have read : (h.readAttribute n st.attrName).runFrom s = (.ok v, w) :=
      Registry.readAttribute_eq_ok_iff.2 ⟨bean, found, given⟩
    refine ⟨.notCount n st.attrName shown, ?_, rfl, rfl⟩
    refine readCount_eq_error_iff.2 (.inr ⟨v, w, hosted ▸ read, integer, ?_⟩)
    exact endsAs_countFault_iff.2 (.inl ⟨shown, worded ▸ words, rfl⟩)

/-- Where an error is eclipsed, the failure is caused by the fault that eclipses it. -/
theorem readCount_of_eclipses {e : Fault} (eclipses : h.Eclipses n st.attrName e g s t) :
    ∃ f, (c.readCount n st).runFrom s = (.error f, t) ∧ f.kind = .statisticsRead ∧
      f.causes = g :: g.causes := by
  obtain ⟨raised, unsaid, error, words⟩ := eclipses
  exact readCount_of_said hosted worded
    (raised.readAttribute_eq_error_iff.2 (Host.endsAs_operationFault_iff.2 (.inr unsaid)))
    error words

/-- Where there are no words, the count fails as they do. -/
theorem readCount_of_wordless (wordless : h.Wordless n st.attrName f s t) :
    (c.readCount n st).runFrom s = (.error f, t) := by
  cases wordless with
  | refused refuses unsaid =>
    exact readCount_of_unsaid hosted worded refuses.runFrom_readAttribute refuses.isError unsaid
  | @notInteger bean v _ w _ found given integer unsaid =>
    have read : (h.readAttribute n st.attrName).runFrom s = (.ok v, w) :=
      Registry.readAttribute_eq_ok_iff.2 ⟨bean, found, given⟩
    refine readCount_eq_error_iff.2 (.inr ⟨v, w, hosted ▸ read, integer, ?_⟩)
    exact endsAs_countFault_iff.2 (.inr (worded ▸ unsaid))
  | again raised eclipsed error unsaid =>
    exact readCount_of_unsaid hosted worded
      (raised.readAttribute_eq_error_iff.2 (Host.endsAs_operationFault_iff.2 (.inr eclipsed))) error
      unsaid
  | interrupted raised unsaid interrupted =>
    have failed := raised.readAttribute_eq_error_iff.2
      (Host.endsAs_operationFault_iff.2 (.inr unsaid))
    exact readCount_eq_error_iff.2 (.inl (.inr ⟨hosted ▸ failed, interrupted⟩))

/-- **An error of a count comes from a mishap, from an error that is eclipsed, or from want of
words.** -/
theorem causes_of_readCount (failed : (c.readCount n st).runFrom s = (.error f, t))
    (error : f.isError = true) :
    f.kind = .statisticsRead ∧ (h.Mishap n st.attrName f.causes s t ∨
        ∃ e g, h.Eclipses n st.attrName e g s t ∧ f.causes = g :: g.causes) ∨
      h.Wordless n st.attrName f s t := by
  rcases readCount_eq_error_iff.1 failed with
    (⟨g, v, failed, caught, ended⟩ | ⟨-, interrupted⟩) | ⟨w, v, read, integer, ended⟩
  · rw [endsAs_readFault_iff, worded] at ended
    rcases Host.refuses_or_unsaid (hosted ▸ failed) caught with
        refuses | ⟨e, t', raised, unsaid⟩ <;>
      rcases ended with ⟨said, words, rfl⟩ | wordless
    · exact .inl ⟨rfl, .inl (.refused refuses words)⟩
    · exact .inr (.refused refuses wordless)
    · exact .inl ⟨rfl, .inr ⟨e, g, ⟨raised, unsaid, caught, words⟩, rfl⟩⟩
    · exact .inr (.again raised unsaid caught wordless)
  · cases error.symm.trans interrupted
  · obtain ⟨bean, found, given⟩ := Registry.readAttribute_eq_ok_iff.1 (hosted ▸ read)
    rw [endsAs_countFault_iff, worded] at ended
    rcases ended with ⟨shown, words, rfl⟩ | wordless
    · exact .inl ⟨rfl, .inl (.notInteger found given integer words)⟩
    · exact .inr (.notInteger found given integer wordless)

end

/-- A mishap ends the scrape that asks for the count, unless failures are isolated, in a failure
that has its causes. -/
theorem AsksCount.exists_of_mishap (hosted : c.IsHosted h s) (asked : c.AsksCount s n st u)
    (mishap : h.Mishap n st.attrName causes u t)
    (isolation : (c.settings t).isolateFailures = false) :
    ∃ f, c.collect.runFrom s = (.error f, t) ∧ f.kind = .statisticsRead ∧ f.causes = causes := by
  obtain ⟨f, failed, kind, same⟩ :=
    readCount_of_mishap (hosted.readAttribute u asked.reached n st) hosted.wording mishap
  refine ⟨f, asked.collect_eq_error failed ?_, kind, same⟩
  rintro ⟨-, isolated⟩
  cases isolation.symm.trans isolated

/-- So does an error of the registry's own, which needs no words. -/
theorem AsksCount.exists_of_refuses (hosted : c.IsHosted h s) (asked : c.AsksCount s n st u)
    (refuses : h.Refuses n st.attrName g u t) (own : g.isForeign = false)
    (isolation : (c.settings t).isolateFailures = false) :
    ∃ f, c.collect.runFrom s = (.error f, t) ∧ f.kind = .statisticsRead ∧
      f.causes = g :: g.causes := by
  have words : (h.word.say (.error g)).runFrom t = (.ok g.message, t) :=
    Host.runFrom_say_of_not_isForeign (w := .error g) own t
  exact asked.exists_of_mishap hosted (.refused refuses words) isolation

/-- A name that cannot be composed is no failure to read statistics. Only an address is one. -/
theorem address_of_nameFor {e : Value κ × χ}
    (unnamed : (c.nameFor e.1 e.2).runFrom u = (.error f, t)) (kind : f.kind = .statisticsRead) :
    (c.managerUri e.2).runFrom u = (.error f, t) := by
  rcases nameFor_eq_error_iff.1 unnamed with address | ⟨uri, -, composed⟩
  · exact address
  by_cases written : uri.isWritable = true ∧ e.1.isWritable = true
  · obtain ⟨_, rfl⟩ := Settings.exists_unusable_of_nameOf written.1 written.2 composed
    cases kind
  · cases (Settings.nameOf_of_not_isWritable written _).symm.trans composed
    cases kind

/-- A management registry never fails to say whether a name is registered. -/
theorem IsHosted.hasStatistics_ne_error (hosted : c.IsHosted h s) (reached : c.Reached s u) :
    (c.hasStatistics n).runFrom u ≠ (.error f, t) := by
  intro failed
  rcases hasStatistics_eq_error_iff.1 failed with ⟨g, v, failed, -⟩ | ⟨failed, -⟩ <;>
  · rw [hosted.isRegistered u reached, Host.runFrom_isRegistered] at failed
    cases failed

/-- **A failure to read statistics comes from an address, from a count that has met with a mishap,
from an error that is eclipsed, or from want of words.** -/
theorem causes_of_collect (hosted : c.IsHosted h s) (ended : c.collect.runFrom s = (.error f, t))
    (kind : f.kind = .statisticsRead) :
    (∃ e u, c.AsksAddress s e u ∧ (c.managerUri e.2).runFrom u = (.error f, t)) ∨
      ∃ n st u, c.AsksCount s n st u ∧
        (h.Mishap n st.attrName f.causes u t ∨
          (∃ e g, h.Eclipses n st.attrName e g u t ∧ f.causes = g :: g.causes) ∨
          h.Wordless n st.attrName f u t) := by
  have error : f.isError = true := by rw [Fault.isError, kind]; rfl
  rcases collect_eq_error_iff_asked.1 ended with
    ⟨e, u, asked, unnamed⟩ | ⟨-, ⟨n, u, about, -, failed⟩ | ⟨n, st, u, asked, failed⟩⟩
  · exact .inl ⟨e, u, asked, address_of_nameFor unnamed kind⟩
  · exact absurd failed (hosted.hasStatistics_ne_error about.reached)
  · refine .inr ⟨n, st, u, asked, ?_⟩
    rcases causes_of_readCount (hosted.readAttribute u asked.reached n st) hosted.wording failed
      error with ⟨-, mishap | eclipsed⟩ | wordless
    · exact .inl mishap
    · exact .inr (.inl eclipsed)
    · exact .inr (.inr wordless)

/-- **As long as there are words, no cause is lost.** In a scrape of a hosted collector that does
not isolate failures:

* an error that a bean raises when a count is asked for, and that can be put into words, ends the
  scrape in a failure to read statistics, from which it is reached in one step or in two;
* where the bean is gone or lacks the attribute, the failure is caused by the error that says so,
  and that one by nothing but the fault by which an object says so; over a value that is no integer
  and can be put into words, the failure has no cause;
* an error of a bean for which the registry has no words is lost: the failure is caused by the fault
  in which they fail;
* what the reader of counts has no words for ends the scrape in the fault in which they fail, be it
  a failure to read statistics or not;
* and there are no other failures to read statistics, but for one that is raised by an address. -/
theorem collect_keeps_causes (c : Collector σ κ χ) (h : Host σ κ β) (s : σ)
    (hosted : c.IsHosted h s) :
    (∀ n st u e t, c.AsksCount s n st u → h.RaisesInWords n st.attrName e u t →
        (c.settings t).isolateFailures = false →
        ∃ f g, c.collect.runFrom s = (.error f, t) ∧ f.kind = .statisticsRead ∧
          f.cause? = some g ∧ (g = e ∨ g.cause? = some e)) ∧
      (∀ n st u, c.AsksCount s n st u →
        ((h.registry u).get? n = none → (c.settings u).isolateFailures = false →
          ∃ f, c.collect.runFrom s = (.error f, u) ∧ f.kind = .statisticsRead ∧
            f.causes = [.notRegistered n]) ∧
        ∀ bean, (h.registry u).get? n = some bean →
          (∀ t, (h.view u bean).Lacks st.attrName none u t →
            (c.settings t).isolateFailures = false →
            ∃ f, c.collect.runFrom s = (.error f, t) ∧ f.kind = .statisticsRead ∧
              f.causes = [.noSuchAttribute n st.attrName none]) ∧
          (∀ e t, (h.view u bean).Lacks st.attrName (some e) u t →
            (c.settings t).isolateFailures = false →
            ∃ f, c.collect.runFrom s = (.error f, t) ∧ f.kind = .statisticsRead ∧
              f.causes = .noSuchAttribute n st.attrName (some e) :: e :: e.causes) ∧
          ∀ v shown t t', (h.view u bean).Gives h.call st.attrName v u t → (∀ i, v ≠ .int i) →
            (h.word.say (.value v)).runFrom t = (.ok shown, t') →
            (c.settings t').isolateFailures = false →
            ∃ f, c.collect.runFrom s = (.error f, t') ∧ f.kind = .statisticsRead ∧
              f.causes = []) ∧
      (∀ n st u e g t, c.AsksCount s n st u → h.Eclipses n st.attrName e g u t →
        (c.settings t).isolateFailures = false →
        ∃ f, c.collect.runFrom s = (.error f, t) ∧ f.kind = .statisticsRead ∧
          f.causes = g :: g.causes) ∧
      (∀ n st u f t, c.AsksCount s n st u → h.Wordless n st.attrName f u t →
        (c.settings t).isolateFailures = false → c.collect.runFrom s = (.error f, t)) ∧
      ∀ f t, c.collect.runFrom s = (.error f, t) → f.kind = .statisticsRead →
        (∃ e u, c.AsksAddress s e u ∧ (c.managerUri e.2).runFrom u = (.error f, t)) ∨
          ∃ n st u, c.AsksCount s n st u ∧
            (h.Mishap n st.attrName f.causes u t ∨
              (∃ e g, h.Eclipses n st.attrName e g u t ∧ f.causes = g :: g.causes) ∨
              h.Wordless n st.attrName f u t) := by
  refine ⟨?_, ?_, ?_, ?_, fun _ _ => causes_of_collect hosted⟩
  · intro n st u e t asked raises isolation
    rcases raises.mishap with mishap | ⟨g, mishap⟩
    · obtain ⟨f, ended, kind, same⟩ := asked.exists_of_mishap hosted mishap isolation
      exact ⟨f, e, ended, kind, (Fault.cause?_of_causes same).1, .inl rfl⟩
    · obtain ⟨f, ended, kind, same⟩ := asked.exists_of_mishap hosted mishap isolation
      obtain ⟨first, others⟩ := Fault.cause?_of_causes same
      exact ⟨f, g, ended, kind, first, .inr (Fault.cause?_of_causes others).1⟩
  · intro n st u asked
    refine ⟨fun absent => asked.exists_of_refuses hosted (.gone absent) rfl,
      fun bean found => ⟨fun t lacks => ?_, fun e t lacks => ?_, ?_⟩⟩
    · exact asked.exists_of_refuses hosted (.missing found lacks) rfl
    · exact asked.exists_of_refuses hosted (.missing found lacks) rfl
    · intro v shown t t' given integer words
      exact asked.exists_of_mishap hosted (.notInteger found given integer words)
  · intro n st u e g t asked eclipses isolation
    obtain ⟨f, failed, kind, same⟩ :=
      readCount_of_eclipses (hosted.readAttribute u asked.reached n st) hosted.wording eclipses
    exact ⟨f, asked.collect_eq_error failed (by simp [isolation]), kind, same⟩
  · intro n st u f t asked wordless isolation
    exact asked.collect_eq_error
      (readCount_of_wordless (hosted.readAttribute u asked.reached n st) hosted.wording wordless)
      (by simp [isolation])

open Session in
/-- A collector over the registry of the process, with one cache, whose statistics are the bean. -/
def watchedBean (bean : Bean) : World :=
  { (default : World) with
    beans := [bean]
    caches := [⟨"cache", .text "users", .text "m"⟩]
    collectors := [⟨.platform, 0, .ofList [(.text "users", 0)]⟩]
    platform := .ofList [(Session.usersName, 0)] }

/-- The first count of the bean is asked for at once. -/
theorem asksCount_watchedBean (bean : Session.Bean) :
    (Session.collector 0).AsksCount (watchedBean bean) Session.usersName .hits
      (watchedBean bean) := by
  have composed : Settings.standard.nameOf (.text "m" : Value Session.Callable) (.text "users") =
      .ok Session.usersName := Settings.nameOf_eq_ok_iff.2 (by decide +kernel)
  have named : ((Session.collector 0).nameFor (.text "users") 0).runFrom (watchedBean bean) =
      (.ok Session.usersName, watchedBean bean) :=
    nameFor_eq_ok_iff.2 ⟨.text "m", rfl, composed⟩
  exact ⟨_, .bool true, _, ⟨(.text "users", 0), _, ⟨[], [], [], rfl, rfl⟩, named⟩, by decide, rfl,
    rfl, [], _, [], rfl, rfl⟩

/-- The bean is an object that raises an error when its first count is read. -/
def failingMember : Session.World :=
  watchedBean ⟨"bean", .object, .ofList [("CacheHits", .script (.raise .runtime "boom"))]⟩

/-- The error of the object is the cause of the cause of the failure that leaves the scrape. -/
theorem collect_keeps_causes_failingMember :
    ∃ f g, (Session.collector 0).collect.runFrom failingMember = (.error f, failingMember) ∧
      f.kind = .statisticsRead ∧ f.cause? = some g ∧
      (g = .raised .runtime "boom" ∨ g.cause? = some (.raised .runtime "boom")) := by
  have hosted : (Session.collector 0).IsHosted Session.platformHost failingMember :=
    Session.isHosted_of_platform rfl
  have found : (Session.platformHost.registry failingMember).get? Session.usersName = some 0 := by
    decide
  have raises : Session.platformHost.RaisesInWords Session.usersName Statistic.hits.attrName
      (.raised .runtime "boom") failingMember failingMember :=
    .raised found (.member rfl (by decide)) rfl rfl
  exact (collect_keeps_causes (Session.collector 0) Session.platformHost failingMember hosted).1
    Session.usersName .hits failingMember (.raised .runtime "boom") failingMember
    (asksCount_watchedBean _) raises rfl

/-- The bean is a mapping whose first count is a list with an integer that is not written. -/
def unwritableMember : Session.World :=
  watchedBean ⟨"bean", .stored, .ofList [("CacheHits", .value (.list [.int firstUnwritable]))]⟩

/-- The scrape asks for the count, and is given a value that is no integer. There are no words for
it, and so the scrape does not end in a failure to read statistics. -/
theorem collect_keeps_causes_unwritableMember :
    let c := Session.collector 0
    c.IsHosted Session.platformHost unwritableMember ∧
      (c.settings unwritableMember).isolateFailures = false ∧
      c.AsksCount unwritableMember Session.usersName .hits unwritableMember ∧
      (∃ bean, unwritableMember.platform.get? Session.usersName = some bean ∧
        (Session.platformHost.view unwritableMember bean).Gives Session.platformHost.call
          Statistic.hits.attrName (.list [.int firstUnwritable]) unwritableMember
          unwritableMember) ∧
      ¬ ∃ f t, c.collect.runFrom unwritableMember = (.error f, t) ∧ f.kind = .statisticsRead ∧
        f.causes = [] := by
  intro c
  refine ⟨Session.isHosted_of_platform rfl, rfl, asksCount_watchedBean _,
    ⟨0, by decide, .plain (.item (by decide) rfl) fun _ h => by cases h⟩, ?_⟩
  rintro ⟨f, t, ended, unread, -⟩
  obtain ⟨g, unworded, kind⟩ : ∃ g, (c.collect.runFrom unwritableMember).1 = .error g ∧
      g.kind = .value := exists_of_endsInKind (by decide +kernel)
  rw [ended] at unworded
  cases unworded
  cases unread.symm.trans kind

end Collector

end CacheTelemetry
