import CacheTelemetry.Proofs.Collector.Enquiry
import CacheTelemetry.Proofs.Collector.Hosted

/-!
# The callables that a scrape invokes

A bean may keep a callable in the place of a value, and reading the attribute invokes it.
`Collector.heard c h` is the collector `c`, hosted by `h`, that keeps a list of the callables that
its registry invokes; it does what `c` does (`heard_notes`).

A read invokes one callable at most, and that once (`Host.runFrom_heard`). Since a visit reads each
attribute once at most, **each callable attribute is invoked at most once in a visit**
(`attrs_invocationsIn`).
-/

namespace CacheTelemetry

open Effect

/-- A callable that is invoked for an attribute of the bean under a name. -/
structure Invocation (κ : Type) where
  name : ObjectName
  attr : String
  callable : κ

namespace BeanView

variable {σ τ κ : Type} {view : BeanView σ κ}

/-- A bean in a state with another component, which it does not see. -/
def beside (view : BeanView σ κ) : BeanView (σ × τ) κ :=
  match view with
  | .mapping keys item => .mapping keys fun attr => (item attr).beside
  | .object member => .object fun attr => (member attr).beside

/-- The callable that a bean keeps for an attribute, if it keeps one. -/
def callable? (view : BeanView σ κ) (word : Wording σ κ) (n : ObjectName) (attr : String)
    (s : σ) : Option κ :=
  match (view.fetch word n attr).runFrom s with
  | (.ok (.special callable), _) => some callable
  | _ => none

theorem callable?_eq_some_iff {word : Wording σ κ} {n : ObjectName} {attr : String} {s : σ}
    {callable : κ} :
    view.callable? word n attr s = some callable ↔
      ∃ u, view.Keeps attr (.special callable) s u := by
  rw [callable?]
  constructor
  · intro there
    rcases fetched : (view.fetch word n attr).runFrom s with ⟨f | v, u⟩ <;> rw [fetched] at there
    · cases there
    · cases v <;> cases there
      exact ⟨u, fetch_eq_ok_iff.1 fetched⟩
  · rintro ⟨u, kept⟩
    rw [fetch_eq_ok_iff.2 kept]

/-- Raising an error of a bean anew leaves the other component alone. -/
theorem agree_operationFault_beside (word : Wording σ κ) (n : ObjectName) (attr : String)
    (f : Fault) (s : σ) (q : τ) :
    Agree (fun t p => p = (t, q)) (operationFault word n attr f) s
      (operationFault word.beside n attr f) (s, q) := by
  let R (t : σ) (p : σ × τ) : Prop := p = (t, q)
  have said : Agree R (word.say (.error f)) s (word.beside.say (.error f)) (s, q) :=
    Wording.agree_say (R := R) rfl ⟨rfl, rfl⟩
  exact said.bind fun _ _ _ h => ⟨rfl, h⟩

/-- So does fetching what a bean keeps. -/
theorem agree_fetch_beside (view : BeanView σ κ) (word : Wording σ κ) (n : ObjectName)
    (attr : String) (s : σ) (q : τ) :
    Agree (fun t p => p = (t, q)) (view.fetch word n attr) s
      (view.beside.fetch word.beside n attr) (s, q) := by
  cases view with
  | mapping keys item =>
    rw [beside, fetch, fetch]
    split
    · exact ⟨rfl, rfl⟩
    · exact ⟨rfl, rfl⟩
  | object member =>
    have asked : Agree (fun t p => p = (t, q)) (member attr) s (member attr).beside (s, q) :=
      ⟨rfl, rfl⟩
    refine asked.wrapErrors fun f t p h => ?_
    subst h
    rw [memberFault, memberFault]
    split
    · exact ⟨rfl, rfl⟩
    · exact agree_operationFault_beside word n attr f t q

end BeanView

namespace Host

variable {σ κ β : Type}

/-- The value of an attribute, with a note of the callable that is invoked for it. -/
def heard (h : Host σ κ β) (n : ObjectName) (attr : String) :
    Effect (σ × List (Invocation κ)) (Value κ) := do
  let p ← get
  (h.registry p.1).readAttribute (fun bean => (h.view p.1 bean).beside)
    (fun callable => (h.call callable).noting fun _ => ⟨n, attr, callable⟩) h.word.beside n attr

/-- The callable that is there to be invoked. -/
def callable? (h : Host σ κ β) (n : ObjectName) (attr : String) (s : σ) : Option κ :=
  ((h.registry s).get? n).bind fun bean => (h.view s bean).callable? h.word n attr s

theorem callable?_eq_some_iff {h : Host σ κ β} {n : ObjectName} {attr : String} {s : σ}
    {callable : κ} :
    h.callable? n attr s = some callable ↔ ∃ bean u, (h.registry s).get? n = some bean ∧
      (h.view s bean).Keeps attr (.special callable) s u := by
  simp only [callable?, Option.bind_eq_some_iff, BeanView.callable?_eq_some_iff,
    exists_and_left]

/-- **A read invokes the callable that is there, once**, and does otherwise what it does unheard. -/
theorem runFrom_heard (h : Host σ κ β) (n : ObjectName) (attr : String)
    (p : σ × List (Invocation κ)) :
    (h.heard n attr).runFrom p =
      (((h.readAttribute n attr).runFrom p.1).1, ((h.readAttribute n attr).runFrom p.1).2,
        p.2 ++ ((h.callable? n attr p.1).map fun callable => ⟨n, attr, callable⟩).toList) := by
  obtain ⟨s, notes⟩ := p
  rw [heard, runFrom_get_bind, runFrom_readAttribute]
  rcases found : (h.registry s).get? n with _ | bean
  · rw [Registry.runFrom_readAttribute_of_none found, Registry.runFrom_readAttribute_of_none found,
      callable?, found]
    simp
  rw [Registry.readAttribute_of_some found, Registry.readAttribute_of_some found, callable?, found,
    Option.bind_some, BeanView.callable?]
  -- on both sides the same is fetched, and only a callable is invoked
  have fetched := ((h.view s bean).agree_fetch_beside h.word n attr s notes).runFrom_eq
  rcases ran : ((h.view s bean).fetch h.word n attr).runFrom s with ⟨f | v, t⟩ <;>
    rw [ran] at fetched
  · rw [BeanView.read, BeanView.read, runFrom_bind_of_error fetched, runFrom_bind_of_error ran]
    simp
  · rw [BeanView.read, BeanView.read, runFrom_bind_of_ok fetched, runFrom_bind_of_ok ran]
    cases v with
    | special callable =>
      have called : Agree (fun u q => q = (u, notes ++ [⟨n, attr, callable⟩])) (h.call callable) t
          ((h.call callable).noting fun _ => ⟨n, attr, callable⟩) (t, notes) := ⟨rfl, rfl⟩
      refine (called.wrapErrors fun f u q hq => ?_).runFrom_eq
      subst hq
      exact BeanView.agree_operationFault_beside h.word n attr f u _
    | _ => simp

/-- The callables that were invoked before make no difference. -/
theorem heard_behind (h : Host σ κ β) (n : ObjectName) (attr : String)
    {q : List (Invocation κ)} {p p' : σ × List (Invocation κ)} (behind : Collector.Behind q p p') :
    Agree (Collector.Behind q) (h.heard n attr) p (h.heard n attr) p' := by
  obtain ⟨s, notes⟩ := p
  obtain ⟨rfl, rfl⟩ := behind
  rw [Agree, runFrom_heard, runFrom_heard]
  exact ⟨rfl, rfl, List.append_assoc _ _ _⟩

end Host

namespace Collector

variable {σ κ χ β : Type} [BEq κ] {c : Collector σ κ χ} {h : Host σ κ β} {s : σ}

/-- The collector that keeps a list of the callables that its host invokes. -/
def heard (c : Collector σ κ χ) (h : Host σ κ β) : Collector (σ × List (Invocation κ)) κ χ where
  roster p := c.roster p.1
  setRoster r p := (c.setRoster r p.1, p.2)
  settings p := c.settings p.1
  cacheName x := (c.cacheName x).beside
  managerUri x := (c.managerUri x).beside
  isRegistered n := (c.isRegistered n).beside
  readAttribute := h.heard
  wording := c.wording.beside
  log record p := (c.log record p.1, p.2)

/-- The callables that are invoked in a scrape, in order. -/
def invocations (c : Collector σ κ χ) (h : Host σ κ β) (s : σ) : List (Invocation κ) :=
  ((c.heard h).collect.runFrom (s, [])).2.2

/-- The callables that are invoked in the visit of an entry, in order. -/
def invocationsIn (c : Collector σ κ χ) (h : Host σ κ β) (e : Value κ × χ) (s : σ) :
    List (Invocation κ) :=
  (c.heard h).notesOf e s

/-- The list of callables is not looked at. -/
theorem heard_notes (hosted : c.IsHosted h s) : Notes (c.heard h) c (c.Reached s) where
  roster _ := rfl
  erases :=
    { settings := fun hR => congrArg c.settings hR.1
      managerUri := fun hR x => by
        obtain ⟨rfl, reached⟩ := hR
        exact ⟨rfl, rfl, reached.managerUri x⟩
      isRegistered := fun hR n => by
        obtain ⟨rfl, reached⟩ := hR
        exact ⟨rfl, rfl, reached.isRegistered n⟩
      readAttribute := fun {p t} hR n st => by
        obtain ⟨rfl, reached⟩ := hR
        have heard := h.runFrom_heard n st.attrName p
        rw [← hosted.readAttribute p.1 reached n st] at heard
        exact ⟨congrArg Prod.fst heard, congrArg (fun r => r.2.1) heard,
          reached.readAttribute n st⟩
      wording := fun hR w => by
        obtain ⟨rfl, reached⟩ := hR
        exact ⟨rfl, rfl, reached.wording w⟩
      log := fun hR record => by
        obtain ⟨rfl, reached⟩ := hR
        exact ⟨rfl, reached.log record⟩ }
  appends q :=
    { settings := fun hR => congrArg c.settings hR.1
      managerUri := fun hR x => hR.beside (c.managerUri x)
      isRegistered := fun hR n => hR.beside (c.isRegistered n)
      readAttribute := fun hR n st => h.heard_behind n st.attrName hR
      wording := fun hR w => hR.beside (c.wording w)
      log := fun hR record => ⟨congrArg (c.log record) hR.1, hR.2⟩ }

/-- The callables that a scrape invokes are those of its visits, one after the other. -/
theorem invocations_eq_flatMap (hosted : c.IsHosted h s) :
    c.invocations h s = (c.visits s).flatMap fun v => c.invocationsIn h v.1 v.2 :=
  (heard_notes hosted).collect .start

/-- While counts are read, each attribute has its callable invoked once at most. -/
theorem exists_invocations_mapM_readCount (c : Collector σ κ χ) (h : Host σ κ β) (n : ObjectName)
    (sts : List Statistic) (p : σ × List (Invocation κ)) :
    ∃ notes, ((sts.mapM ((c.heard h).readCount n)).runFrom p).2.2 = p.2 ++ notes ∧
      (notes.map Invocation.attr).Sublist (sts.map Statistic.attrName) ∧
      ∀ i ∈ notes, i.name = n := by
  -- what is claimed of the notes is the property that each read hands on
  let Q (sts : List Statistic) (notes : List (Invocation κ)) : Prop :=
    (notes.map Invocation.attr).Sublist (sts.map Statistic.attrName) ∧ ∀ i ∈ notes, i.name = n
  refine exists_notes_mapM_readCount (Q := Q) ⟨List.Sublist.slnil, by simp⟩ (fun st p => ?_) sts p
  refine ⟨((h.callable? n st.attrName p.1).map fun callable => ⟨n, st.attrName, callable⟩).toList,
    ?_, ?_, ?_⟩
  · rw [notes_readCount fun _ _ => rfl]
    exact congrArg (fun r => r.2.2) (h.runFrom_heard n st.attrName p)
  · rintro i - rest later ⟨sublist, names⟩
    cases h.callable? n st.attrName p.1 with
    | none => exact ⟨sublist.cons _, names⟩
    | some callable =>
      refine ⟨sublist.cons_cons _, fun i mem => ?_⟩
      rcases List.mem_cons.1 mem with rfl | mem
      · rfl
      · exact names i mem
  · rintro f - rest
    cases h.callable? n st.attrName p.1 with
    | none => exact ⟨List.nil_sublist _, by simp⟩
    | some callable => exact ⟨(List.nil_sublist _).cons_cons _, by simp⟩

/-- So has it while statistics are looked for. -/
theorem exists_invocations_readStatistics (c : Collector σ κ χ) (h : Host σ κ β) (n : ObjectName)
    (p : σ × List (Invocation κ)) :
    ∃ notes, (((c.heard h).readStatistics n).runFrom p).2.2 = p.2 ++ notes ∧
      (notes.map Invocation.attr).Sublist (Statistic.all.map Statistic.attrName) ∧
      ∀ i ∈ notes, i.name = n := by
  have unasked : (((c.heard h).hasStatistics n).runFrom p).2.2 = p.2 := by
    rw [notes_hasStatistics fun _ _ => rfl]
    rfl
  have silent : ∀ {r : σ × List (Invocation κ)}, r.2 = p.2 → ∃ notes, r.2 = p.2 ++ notes ∧
      (notes.map Invocation.attr).Sublist (Statistic.all.map Statistic.attrName) ∧
      ∀ i ∈ notes, i.name = n := by
    intro r same
    exact ⟨[], by rw [same, List.append_nil], List.nil_sublist _, by simp⟩
  unfold readStatistics
  split
  · exact silent rfl
  · rcases ran : ((c.heard h).hasStatistics n).runFrom p with ⟨f | _ | _, q⟩ <;> rw [ran] at unasked
    · rw [runFrom_bind_of_error ran]
      exact silent unasked
    · rw [runFrom_bind_of_ok ran]
      exact silent unasked
    · rw [runFrom_bind_of_ok ran, if_pos rfl, runFrom_bind_pure_snd, readAll_eq_mapM,
        runFrom_bind_pure_snd, ← unasked]
      exact c.exists_invocations_mapM_readCount h n Statistic.all q

/-- **Each callable attribute is invoked at most once in a visit**: the attributes whose callables
are invoked are some of the six, in their order and under the name of the entry. -/
theorem attrs_invocationsIn (hosted : c.IsHosted h s) {u : σ} (reached : c.Reached s u)
    (e : Value κ × χ) :
    ((c.invocationsIn h e u).map Invocation.attr).Sublist
        (Statistic.all.map Statistic.attrName) ∧
      ∀ i ∈ c.invocationsIn h e u, ∃ t, (c.nameFor e.1 e.2).runFrom u = (.ok i.name, t) := by
  have outcome :=
    ((heard_notes hosted).erases.nameFor (s := (u, [])) (t := u) ⟨rfl, reached⟩ e.1 e.2).1
  rcases (c.heard h).notesOf_cases e u (fun _ _ => rfl) (fun _ _ => rfl) with
    ⟨f, q, unnamed, none⟩ | ⟨n, q, named, start, looked⟩
  · rw [invocationsIn, none]
    exact ⟨List.nil_sublist _, by simp⟩
  · obtain ⟨notes, noted, sublist, names⟩ := c.exists_invocations_readStatistics h n q
    rw [start] at noted
    rw [invocationsIn, looked, noted]
    refine ⟨sublist, fun i mem => ?_⟩
    rw [named] at outcome
    rw [names i mem]
    exact ⟨_, Prod.ext outcome.symm rfl⟩

end Collector

end CacheTelemetry
