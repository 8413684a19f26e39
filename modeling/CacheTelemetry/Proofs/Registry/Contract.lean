import CacheTelemetry.Proofs.Registry.Reading
import CacheTelemetry.Proofs.Session.Keeping

/-!
# The contract of reading attributes

A reader of attributes is promised three kinds of errors: the name is not registered, the bean does
not have the attribute, or the bean failed to give it, in which case the error that the bean raised
is the cause (`Registry.AnswersAsDocumented`).

What becomes of a read is decided by the bean. Either it *lacks* the attribute, or it *raises* a
fault for it, or it *gives* a value (`BeanView.read_cases`); each of these has its equation. A bean
raises a fault in one of three places: where the item of a mapping is accessed, where the member of
an object is read, and where a callable is called. Two of them are guarded. The access of an item
is not, and its errors leave the registry as they are. An error that is guarded is raised anew with
its text, and there may be no words for it. So **the contract is kept exactly if the access of items
raises no errors and the errors of the bean are reported** (`Registry.answersAsDocumented_iff`).
-/

namespace CacheTelemetry

open Effect

/-- No fault was raised from itself. -/
theorem Fault.cause?_ne_self (f : Fault) : f.cause? ≠ some f := by
  intro h
  cases f <;> cases h

/-- What is no error is an interruption. -/
theorem Fault.kind_of_isError_eq_false {f : Fault} (h : f.isError = false) :
    f.kind = .interrupt := by
  rw [Fault.isError] at h
  cases hk : f.kind <;> rw [hk] at h <;> cases h

variable {σ κ β : Type} {s t u : σ} {n : ObjectName} {attr : String} {e f : Fault} {v : Value κ}
  {call : κ → Effect σ (Value κ)} {word : Wording σ κ}

namespace BeanView

variable {view : BeanView σ κ}

/-- A bean lacks an attribute: a mapping has no such key, or an object says, by the fault that
reading the member raises, that it has no such member. -/
inductive Lacks (attr : String) : BeanView σ κ → Option Fault → σ → σ → Prop where
  | key {keys : List String} {item : String → Effect σ (Value κ)} {s : σ} (absent : attr ∉ keys) :
    Lacks attr (.mapping keys item) none s s
  | member {member : String → Effect σ (Value κ)} {e : Fault} {s t : σ}
    (refused : (member attr).runFrom s = (.error e, t)) (kind : e.kind = .member) :
    Lacks attr (.object member) (some e) s t

/-- The access of an item of a mapping raises a fault. -/
inductive ItemRaises (attr : String) : BeanView σ κ → Fault → σ → σ → Prop where
  | item {keys : List String} {item : String → Effect σ (Value κ)} {e : Fault} {s t : σ}
    (key : attr ∈ keys) (raised : (item attr).runFrom s = (.error e, t)) :
    ItemRaises attr (.mapping keys item) e s t

/-- A bean has an attribute and raises a fault when it is accessed, read or called. -/
inductive Raises (call : κ → Effect σ (Value κ)) (attr : String) :
    BeanView σ κ → Fault → σ → σ → Prop where
  | item {view : BeanView σ κ} {e : Fault} {s t : σ} (raised : view.ItemRaises attr e s t) :
    Raises call attr view e s t
  | member {member : String → Effect σ (Value κ)} {e : Fault} {s t : σ}
    (raised : (member attr).runFrom s = (.error e, t)) (present : e.kind ≠ .member) :
    Raises call attr (.object member) e s t
  | called {view : BeanView σ κ} {callable : κ} {e : Fault} {s u t : σ}
    (kept : view.Keeps attr (.special callable) s u)
    (raised : (call callable).runFrom u = (.error e, t)) : Raises call attr view e s t

/-- A bean gives a value for an attribute: the value that it keeps, or, if that is a callable, the
result of one call. -/
inductive Gives (call : κ → Effect σ (Value κ)) (attr : String) (view : BeanView σ κ)
    (v : Value κ) (s t : σ) : Prop where
  | plain (kept : view.Keeps attr v s t) (plain : ∀ callable, v ≠ .special callable)
  | called {callable : κ} {u : σ} (kept : view.Keeps attr (.special callable) s u)
    (result : (call callable).runFrom u = (.ok v, t))

/-- A guarded error of a bean, raised in the state `t`, is reported: what it is raised anew as is a
failed operation, and has it for its cause. -/
def IsReported (word : Wording σ κ) (n : ObjectName) (attr : String) (e : Fault) (t : σ) : Prop :=
  ∃ f u, (operationFault word n attr e).EndsAs t f u ∧ f.kind = .beanOperation ∧
    f.cause? = some e

/-- An error is reported if there are words for it. -/
theorem isReported_of_say {said : String}
    (found : (word.say (.error e)).runFrom t = (.ok said, u)) :
    IsReported word n attr e t :=
  ⟨.attributeFailed n attr said e, u, .inl (runFrom_bind_of_ok found _), rfl, rfl⟩

/-- The state that reporting an error leaves is the one in which its words have been looked for. -/
theorem runFrom_operationFault_snd (word : Wording σ κ) (n : ObjectName) (attr : String)
    (e : Fault) (t : σ) :
    ((operationFault word n attr e).runFrom t).2 = ((word.say (.error e)).runFrom t).2 :=
  runFrom_bind_pure_snd _ _ _

/-! ### The three cases -/

/-- A value that is no callable is passed on, and a callable is called. -/
theorem runFrom_read_of_keeps (kept : view.Keeps attr v s u) :
    (view.read call word n attr).runFrom s =
      match v with
      | .special callable => ((call callable).wrapErrors (operationFault word n attr)).runFrom u
      | v => (.ok v, u) := by
  rw [read, runFrom_bind_of_ok (fetch_eq_ok_iff.2 kept)]
  cases v <;> rfl

/-- A read that cannot be fetched fails as fetching does. -/
theorem runFrom_read_of_fetch (failed : (view.fetch word n attr).runFrom s = (.error f, t)) :
    (view.read call word n attr).runFrom s = (.error f, t) := by
  rw [read, runFrom_bind_of_error failed]

theorem Lacks.runFrom_read {cause : Option Fault} (h : view.Lacks attr cause s t) :
    (view.read call word n attr).runFrom s = (.error (.noSuchAttribute n attr cause), t) := by
  refine runFrom_read_of_fetch ?_
  cases h with
  | key absent =>
    rw [fetch, if_neg absent]
    rfl
  | @member member e _ _ refused kind =>
    have error : e.isError = true := by rw [Fault.isError, kind]; rfl
    rw [fetch, runFrom_wrapErrors_of_error refused, if_pos error, memberFault, if_pos kind]
    rfl

theorem Gives.runFrom_read (h : view.Gives call attr v s t) :
    (view.read call word n attr).runFrom s = (.ok v, t) := by
  cases h with
  | plain kept plain =>
    rw [runFrom_read_of_keeps kept]
    cases v with
    | special callable => exact absurd rfl (plain callable)
    | _ => rfl
  | called kept result =>
    rw [runFrom_read_of_keeps kept]
    exact wrapErrors_eq_ok_iff.2 result

/-- A fault that is raised by accessing an item is not raised anew. -/
theorem ItemRaises.runFrom_read (h : view.ItemRaises attr e s t) :
    (view.read call word n attr).runFrom s = (.error e, t) := by
  refine runFrom_read_of_fetch ?_
  obtain ⟨key, raised⟩ := h
  rw [fetch, if_pos key, raised]

/-- All other errors that a bean raises are raised anew. -/
theorem Raises.read_eq_error_iff (h : view.Raises call attr e s t)
    (guarded : ¬ view.ItemRaises attr e s t) :
    (view.read call word n attr).runFrom s = (.error f, u) ↔
      e.isError = true ∧ (operationFault word n attr e).EndsAs t f u ∨
        e.isError = false ∧ f = e ∧ u = t := by
  cases h with
  | item raised => exact absurd raised guarded
  | @member member _ _ _ raised present =>
    have fetched : ((member attr).wrapErrors (memberFault word n attr)).runFrom s = (.error f, u) ↔
        _ := wrapErrors_eq_error_iff_of_error raised
    rw [memberFault, if_neg present] at fetched
    rw [read, bind_eq_error_iff, fetch, fetched, or_iff_left]
    rintro ⟨v, _, given, -⟩
    cases (wrapErrors_eq_ok_iff.1 given).symm.trans raised
  | called kept raised =>
    rw [runFrom_read_of_keeps kept]
    exact wrapErrors_eq_error_iff_of_error raised

/-- A read fails where the bean raises a fault. -/
theorem Raises.exists_failure (h : view.Raises call attr e s t) (word : Wording σ κ)
    (n : ObjectName) : ∃ f u, (view.read call word n attr).runFrom s = (.error f, u) := by
  by_cases item : view.ItemRaises attr e s t
  · exact ⟨e, t, item.runFrom_read⟩
  cases error : e.isError with
  | true =>
    obtain ⟨f, u, ended⟩ := exists_endsAs (operationFault word n attr e) t
    exact ⟨f, u, (h.read_eq_error_iff item).2 (.inl ⟨error, ended⟩)⟩
  | false => exact ⟨e, t, (h.read_eq_error_iff item).2 (.inr ⟨error, rfl, rfl⟩)⟩

/-- Reading an attribute comes to one of three things. -/
theorem read_cases (view : BeanView σ κ) (call : κ → Effect σ (Value κ)) (attr : String) (s : σ) :
    (∃ cause t, view.Lacks attr cause s t) ∨ (∃ e t, view.Raises call attr e s t) ∨
      ∃ v t, view.Gives call attr v s t := by
  -- once the bean is known to keep a value, the value decides
  have keeps : ∀ v u, view.Keeps attr v s u →
      (∃ e t, view.Raises call attr e s t) ∨ ∃ v t, view.Gives call attr v s t := by
    intro v u kept
    cases v with
    | special callable =>
      rcases called : (call callable).runFrom u with ⟨e | w, t⟩
      · exact .inl ⟨e, t, .called kept called⟩
      · exact .inr ⟨w, t, .called kept called⟩
    | _ => exact .inr ⟨_, u, .plain kept (by simp)⟩
  cases view with
  | mapping keys item =>
    by_cases key : attr ∈ keys
    · rcases accessed : (item attr).runFrom s with ⟨e | v, u⟩
      · exact .inr (.inl ⟨e, u, .item (.item key accessed)⟩)
      · exact .inr (keeps v u (.item key accessed))
    · exact .inl ⟨none, s, .key key⟩
  | object member =>
    rcases asked : (member attr).runFrom s with ⟨e | v, u⟩
    · by_cases kind : e.kind = .member
      · exact .inl ⟨some e, u, .member asked kind⟩
      · exact .inr (.inl ⟨e, u, .member asked kind⟩)
    · exact .inr (keeps v u (.member asked))

/-- How a read fails: the attribute is missing, or the bean raises a fault, and the fault is that of
an item, an error that is raised anew, or an interruption. -/
inductive Fails (view : BeanView σ κ) (call : κ → Effect σ (Value κ)) (word : Wording σ κ)
    (n : ObjectName) (attr : String) (f : Fault) (s u : σ) : Prop where
  | lacks {cause : Option Fault} (lacks : view.Lacks attr cause s u)
    (eq : f = .noSuchAttribute n attr cause)
  | item (raises : view.ItemRaises attr f s u)
  | anew {e : Fault} {t : σ} (raises : view.Raises call attr e s t)
    (guarded : ¬ view.ItemRaises attr e s t) (error : e.isError = true)
    (ended : (operationFault word n attr e).EndsAs t f u)
  | interrupt (raises : view.Raises call attr f s u) (interrupted : f.isError = false)

/-- A read that fails does so because the attribute is missing, or because the bean raises. -/
theorem fails_of_read (h : (view.read call word n attr).runFrom s = (.error f, u)) :
    view.Fails call word n attr f s u := by
  rcases read_cases view call attr s with ⟨cause, t, lacks⟩ | ⟨e, t, raises⟩ | ⟨v, t, gives⟩
  · cases lacks.runFrom_read.symm.trans h
    exact .lacks lacks rfl
  · by_cases item : view.ItemRaises attr e s t
    · cases item.runFrom_read.symm.trans h
      exact .item item
    · rcases (raises.read_eq_error_iff item).1 h with ⟨error, ended⟩ | ⟨interrupted, rfl, rfl⟩
      · exact .anew raises item error ended
      · exact .interrupt raises interrupted
  · cases gives.runFrom_read.symm.trans h

/-- A read that succeeds does so because the bean gives the value. -/
theorem gives_of_read (h : (view.read call word n attr).runFrom s = (.ok v, t)) :
    view.Gives call attr v s t := by
  rcases read_cases view call attr s with ⟨cause, u, lacks⟩ | ⟨e, u, raises⟩ | ⟨w, u, gives⟩
  · cases lacks.runFrom_read.symm.trans h
  · obtain ⟨f, w, failed⟩ := raises.exists_failure word n
    cases failed.symm.trans h
  · cases gives.runFrom_read.symm.trans h
    exact gives

end BeanView

namespace Registry

variable {r : Registry β} {view : β → BeanView σ κ} {bean : β}

theorem runFrom_readAttribute_of_none (absent : r.get? n = none) :
    (r.readAttribute view call word n attr).runFrom s = (.error (.notRegistered n), s) := by
  rw [readAttribute, absent]
  rfl

theorem readAttribute_of_some (found : r.get? n = some bean) :
    r.readAttribute view call word n attr = (view bean).read call word n attr := by
  rw [readAttribute, found]

/-- An attribute is read exactly if the bean under the name gives its value. -/
theorem readAttribute_eq_ok_iff :
    (r.readAttribute view call word n attr).runFrom s = (.ok v, t) ↔
      ∃ bean, r.get? n = some bean ∧ (view bean).Gives call attr v s t := by
  constructor
  · intro h
    rcases found : r.get? n with _ | bean
    · cases (runFrom_readAttribute_of_none found).symm.trans h
    · rw [readAttribute_of_some found] at h
      exact ⟨bean, rfl, BeanView.gives_of_read h⟩
  · rintro ⟨bean, found, gives⟩
    rw [readAttribute_of_some found, gives.runFrom_read]

/-- What a reader of an attribute is promised in a state: the three kinds of errors are raised
exactly where they are documented to be, an error of the bean is kept as the cause, and in all other
cases the value is returned. -/
structure AnswersAsDocumented (r : Registry β) (view : β → BeanView σ κ)
    (call : κ → Effect σ (Value κ)) (word : Wording σ κ) (n : ObjectName) (attr : String)
    (s : σ) : Prop where
  notRegistered : (∃ f t, (r.readAttribute view call word n attr).runFrom s = (.error f, t) ∧
      f.kind = .notRegistered) ↔ r.get? n = none
  noSuchAttribute : (∃ f t, (r.readAttribute view call word n attr).runFrom s = (.error f, t) ∧
      f.kind = .noSuchAttribute) ↔
    ∃ bean cause t, r.get? n = some bean ∧ (view bean).Lacks attr cause s t
  beanOperation : (∃ f t, (r.readAttribute view call word n attr).runFrom s = (.error f, t) ∧
      f.kind = .beanOperation) ↔
    ∃ bean e t, r.get? n = some bean ∧ (view bean).Raises call attr e s t ∧ e.isError = true
  cause : ∀ bean e t, r.get? n = some bean → (view bean).Raises call attr e s t →
    e.isError = true →
    ∃ f, (r.readAttribute view call word n attr).runFrom s =
      (.error f, ((word.say (.error e)).runFrom t).2) ∧ f.cause? = some e
  value : ∀ v t, (r.readAttribute view call word n attr).runFrom s = (.ok v, t) ↔
    ∃ bean, r.get? n = some bean ∧ (view bean).Gives call attr v s t
  otherwise : ∀ bean, r.get? n = some bean → (∀ cause t, ¬ (view bean).Lacks attr cause s t) →
    (∀ e t, ¬ (view bean).Raises call attr e s t) →
    ∃ v t, (r.readAttribute view call word n attr).runFrom s = (.ok v, t)

/-- The access of items raises no errors. -/
def ItemsAreSafe (r : Registry β) (view : β → BeanView σ κ) (n : ObjectName) (attr : String)
    (s : σ) : Prop :=
  ∀ bean e t, r.get? n = some bean → (view bean).ItemRaises attr e s t → e.isError = false

/-- The errors of the bean are reported. -/
def ErrorsAreReported (r : Registry β) (view : β → BeanView σ κ) (call : κ → Effect σ (Value κ))
    (word : Wording σ κ) (n : ObjectName) (attr : String) (s : σ) : Prop :=
  ∀ bean e t, r.get? n = some bean → (view bean).Raises call attr e s t → e.isError = true →
    BeanView.IsReported word n attr e t

theorem ItemsAreSafe.not_itemRaises (safe : r.ItemsAreSafe view n attr s)
    (found : r.get? n = some bean) (error : e.isError = true) :
    ¬ (view bean).ItemRaises attr e s t := by
  intro item
  rw [safe bean e t found item] at error
  cases error

section

variable (safe : r.ItemsAreSafe view n attr s)
  (reported : r.ErrorsAreReported view call word n attr s)

include safe reported

/-- What the kind of a failure tells, if the access of items raises no errors and the other errors
are reported. -/
theorem kind_of_readAttribute_eq_error
    (h : (r.readAttribute view call word n attr).runFrom s = (.error f, u)) :
    (r.get? n = none ∧ f.kind = .notRegistered) ∨
      (∃ bean cause t, r.get? n = some bean ∧ (view bean).Lacks attr cause s t ∧
        f.kind = .noSuchAttribute) ∨
      (∃ bean e t, r.get? n = some bean ∧ (view bean).Raises call attr e s t ∧ e.isError = true ∧
        f.kind = .beanOperation) ∨ f.kind = .interrupt := by
  rcases found : r.get? n with _ | bean
  · cases (runFrom_readAttribute_of_none found).symm.trans h
    exact .inl ⟨rfl, rfl⟩
  rw [readAttribute_of_some found] at h
  cases BeanView.fails_of_read h with
  | lacks lacks eq => exact .inr (.inl ⟨bean, _, u, rfl, lacks, eq ▸ rfl⟩)
  | item item =>
    exact .inr (.inr (.inr (Fault.kind_of_isError_eq_false (safe bean f u found item))))
  | @anew e t raises _ error ended =>
    obtain ⟨g, w, ended', kind, -⟩ := reported bean e t found raises error
    obtain ⟨rfl, rfl⟩ := ended.unique ended'
    exact .inr (.inr (.inl ⟨bean, e, t, rfl, raises, error, kind⟩))
  | interrupt _ interrupted => exact .inr (.inr (.inr (Fault.kind_of_isError_eq_false interrupted)))

/-- An error of the bean is raised anew as a failed operation that it is the cause of. -/
theorem exists_failure_of_raises (found : r.get? n = some bean)
    (raises : (view bean).Raises call attr e s t) (error : e.isError = true) :
    ∃ f, (r.readAttribute view call word n attr).runFrom s =
      (.error f, ((word.say (.error e)).runFrom t).2) ∧ f.kind = .beanOperation ∧
        f.cause? = some e := by
  obtain ⟨f, u, ended, kind, cause⟩ := reported bean e t found raises error
  refine ⟨f, ?_, kind, cause⟩
  rw [← BeanView.runFrom_operationFault_snd word n attr e t, ended.state,
    readAttribute_of_some found, raises.read_eq_error_iff (safe.not_itemRaises found error)]
  exact .inl ⟨error, ended⟩

theorem answersAsDocumented_of_safe : r.AnswersAsDocumented view call word n attr s where
  notRegistered := by
    constructor
    · rintro ⟨f, t, failed, kind⟩
      rcases kind_of_readAttribute_eq_error safe reported failed with
        ⟨absent, -⟩ | ⟨_, _, _, -, -, other⟩ | ⟨_, _, _, -, -, -, other⟩ | other
      · exact absent
      all_goals cases kind.symm.trans other
    · intro absent
      exact ⟨_, _, runFrom_readAttribute_of_none absent, rfl⟩
  noSuchAttribute := by
    constructor
    · rintro ⟨f, t, failed, kind⟩
      rcases kind_of_readAttribute_eq_error safe reported failed with
        ⟨-, other⟩ | ⟨bean, cause, t, found, lacks, -⟩ | ⟨_, _, _, -, -, -, other⟩ | other
      · cases kind.symm.trans other
      · exact ⟨bean, cause, t, found, lacks⟩
      all_goals cases kind.symm.trans other
    · rintro ⟨bean, cause, t, found, lacks⟩
      refine ⟨.noSuchAttribute n attr cause, t, ?_, rfl⟩
      rw [readAttribute_of_some found, lacks.runFrom_read]
  beanOperation := by
    constructor
    · rintro ⟨f, t, failed, kind⟩
      rcases kind_of_readAttribute_eq_error safe reported failed with
        ⟨-, other⟩ | ⟨_, _, _, -, -, other⟩ | ⟨bean, e, t, found, raises, error, -⟩ | other
      · cases kind.symm.trans other
      · cases kind.symm.trans other
      · exact ⟨bean, e, t, found, raises, error⟩
      · cases kind.symm.trans other
    · rintro ⟨bean, e, t, found, raises, error⟩
      obtain ⟨f, failed, kind, -⟩ := exists_failure_of_raises safe reported found raises error
      exact ⟨f, _, failed, kind⟩
  cause bean e t found raises error := by
    obtain ⟨f, failed, -, cause⟩ := exists_failure_of_raises safe reported found raises error
    exact ⟨f, failed, cause⟩
  value _ _ := readAttribute_eq_ok_iff
  otherwise bean found present sound := by
    rcases BeanView.read_cases (view bean) call attr s with
      ⟨cause, t, lacks⟩ | ⟨e, t, raises⟩ | ⟨v, t, gives⟩
    · exact absurd lacks (present cause t)
    · exact absurd raises (sound e t)
    · exact ⟨v, t, readAttribute_eq_ok_iff.2 ⟨bean, found, gives⟩⟩

end

/-- The reader does not get the error of an item as a cause, but the error itself. -/
theorem not_answersAsDocumented_of_itemRaises (found : r.get? n = some bean)
    (item : (view bean).ItemRaises attr e s t) (error : e.isError = true) :
    ¬ r.AnswersAsDocumented view call word n attr s := by
  intro documented
  obtain ⟨f, failed, cause⟩ := documented.cause bean e t found (.item item) error
  rw [readAttribute_of_some found, item.runFrom_read] at failed
  cases (Prod.mk.inj failed).1
  exact Fault.cause?_ne_self e cause

/-- Where the contract is kept, the access of items raises no errors. -/
theorem AnswersAsDocumented.itemsAreSafe
    (documented : r.AnswersAsDocumented view call word n attr s) :
    r.ItemsAreSafe view n attr s := by
  intro bean e t found item
  rw [← Bool.not_eq_true]
  exact fun error => not_answersAsDocumented_of_itemRaises found item error documented

/-- Where the contract is kept, what the reader gets is the report of the error. -/
theorem AnswersAsDocumented.errorsAreReported
    (documented : r.AnswersAsDocumented view call word n attr s) :
    r.ErrorsAreReported view call word n attr s := by
  intro bean e t found raises error
  have item : ¬ (view bean).ItemRaises attr e s t :=
    documented.itemsAreSafe.not_itemRaises found error
  obtain ⟨f, failed, cause⟩ := documented.cause bean e t found raises error
  obtain ⟨g, w, failed', kind⟩ := documented.beanOperation.2 ⟨bean, e, t, found, raises, error⟩
  cases (Prod.mk.inj (failed.symm.trans failed')).1
  rw [readAttribute_of_some found, raises.read_eq_error_iff item] at failed
  rcases failed with ⟨-, ended⟩ | ⟨interrupted, -⟩
  · exact ⟨f, _, ended, kind, cause⟩
  · cases error.symm.trans interrupted

/-- **The contract is kept exactly if the access of items raises no errors and the other errors of
the bean are reported.** An error that a mapping raises when an item is accessed leaves the registry
as it is, and so it is not the cause of what the reader gets. An error for which there are words is
reported. -/
theorem answersAsDocumented_iff (r : Registry β) (view : β → BeanView σ κ)
    (call : κ → Effect σ (Value κ)) (word : Wording σ κ) (n : ObjectName) (attr : String) (s : σ) :
    (r.AnswersAsDocumented view call word n attr s ↔
      r.ItemsAreSafe view n attr s ∧ r.ErrorsAreReported view call word n attr s) ∧
    ∀ e t said u, (word.say (.error e)).runFrom t = (.ok said, u) →
      BeanView.IsReported word n attr e t := by
  refine ⟨⟨fun documented => ?_, fun ⟨safe, reported⟩ => ?_⟩, fun _ _ _ _ => ?_⟩
  · exact ⟨documented.itemsAreSafe, documented.errorsAreReported⟩
  · exact answersAsDocumented_of_safe safe reported
  · exact BeanView.isReported_of_say

/-- The name `d:k=v`. -/
def itemName : ObjectName :=
  .ofAdmissible (ObjectName.firstFault_eq_none_iff.1 (show ObjectName.firstFault "d" [("k", "v")] =
    none by decide))

open Session in
/-- A mapping whose only item raises an error when it is accessed. -/
def failingItem : World :=
  { (default : World) with
    beans := [⟨"bean", .lazy, .ofList [("CacheHits", .script (.raise .runtime "boom"))]⟩]
    registries := .ofList [("main", .ofList [(itemName, 0)])] }

/-- The error of the item leaves the registry as it is. -/
theorem not_answersAsDocumented_failingItem :
    ¬ (failingItem.registry .main).AnswersAsDocumented
      (Session.beanView Session.nested failingItem) (Session.call Session.nested) Session.wording
      itemName "CacheHits" failingItem := by
  have raised : (Session.beanView Session.nested failingItem 0).ItemRaises "CacheHits"
      (.raised .runtime "boom") failingItem failingItem := .item (by decide) rfl
  exact not_answersAsDocumented_of_itemRaises (by decide) raised rfl

end Registry

end CacheTelemetry
