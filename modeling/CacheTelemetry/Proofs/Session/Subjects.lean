import CacheTelemetry.Proofs.Collector.Order
import CacheTelemetry.Proofs.Collector.Roster
import CacheTelemetry.Proofs.Registry.History
import CacheTelemetry.Proofs.Session.Beans
import CacheTelemetry.Proofs.Session.Traceless

/-!
# What steps are about

A step that adds or removes a cache is about the name of the cache, and a step that registers or
unregisters a bean is about the name of the bean; such a name is the *subject* of the step. Where
reads have no effects the subject of a step is the same whatever such steps come before it, and
**what stands under a subject after a run depends on the steps about it alone, in their order**
(`holder_worldAfter`). Steps without a subject fail.
-/

namespace CacheTelemetry.Session

open Effect Registry

/-- The name of a cache, or that of a bean. -/
inductive Subject where
  | cache (name : String)
  | bean (n : ObjectName)
  deriving DecidableEq

variable {w u v : World} {p x : Place} {step : Step}

/-- What steps on a collector and its registry leave alone: the world without the caches of the
collector, the beans in its registry, and the log. -/
def World.outside (w : World) (p : Place) : World :=
  { w with
    collectors := w.collectors.modify p fun c => { c with roster := ∅ }
    registries := match (w.collectorAt p).registry with
      | .named id => w.registries.insert id ∅
      | .platform => w.registries
    platform := if (w.collectorAt p).registry = .platform then ∅ else w.platform
    journal := [] }

/-- The worlds that are the same outside the collector. -/
def World.Beside (w : World) (p : Place) (v : World) : Prop := v.outside p = w.outside p

/-- The key under which the cache in a place is entered, or the fault of reading its name. -/
def World.entryKey (w : World) (x : Place) : Except Fault (Value Callable) :=
  (((collectorIn nested 0).entryName x).runFrom w).1

/-- What a step is about in a world. -/
def Step.subject (w : World) : Step → Option Subject
  | .addCache _ cache => do
    match w.entryKey (← w.cacheIds.get? cache) with
    | .ok (.text name) => some (.cache name)
    | _ => none
  | .removeCache _ name => some (.cache (name.getD ""))
  | .registerBean _ name _ | .unregisterBean _ name =>
    ((objectName nested name).runFrom w).1.toOption.map .bean
  | _ => none

/-- What stands under the subject of a step afterwards, given what stood there before. -/
def Step.settle (w : World) (step : Step) (subject : Subject) (held : Option Place) :
    Option Place :=
  match step, subject, held with
  | .addCache _ cache, _, _ => w.cacheIds.get? cache
  | .registerBean _ _ bean, .bean n, none => if n.isPattern then none else w.beanIds.get? bean
  | .registerBean .., _, held => held
  | _, _, _ => none

/-- The cache in a collector, or the bean in its registry, under a name. -/
def World.holder (w : World) (p : Place) : Subject → Option Place
  | .cache name => (w.collectorAt p).roster.get? (.text name)
  | .bean n => (w.registry (w.collectorAt p).registry).get? n

/-- The step adds or removes a cache of a collector, or registers or unregisters a bean in its
registry, under a name that is evaluated without effects and without a look at what such steps
change. -/
def Step.ActsOn (w : World) (p : Place) : Step → Prop
  | .addCache collector _ | .removeCache collector _ => w.collectorIds.get? collector = some p
  | .registerBean ref name _ | .unregisterBean ref name =>
    ref = (w.collectorAt p).registry ∧ FixedOn (w.Beside p) (nameArgument nested name)
  | _ => False

/-- The names of caches are read without effects and without a look at what steps on the collector
and its registry change, and those that can be read are texts or null. -/
structure World.NamesPlainly (w : World) (p : Place) : Prop where
  names : ∀ cache ∈ w.caches, FixedOn (w.Beside p) (evaluate nested cache.name)
  texts : ∀ x key, w.entryKey x = .ok key → key.isKey = true → ∃ name, key = .text name

/-! ### What stays -/

theorem collectorAt_outside (w : World) (p : Place) :
    (w.outside p).collectorAt p = { w.collectorAt p with roster := ∅ } := by
  simp only [World.collectorAt, World.outside, List.getElem?_modify_eq]
  cases w.collectors[p]? <;> rfl

namespace World.Beside

variable (like : w.Beside p u)

include like

/-- The worlds agree on what is read off what is outside. -/
theorem congr {β : Type} (f : World → β) : f (u.outside p) = f (w.outside p) :=
  congrArg f like

theorem registry : (u.collectorAt p).registry = (w.collectorAt p).registry := by
  have same := like.congr fun t => (t.collectorAt p).registry
  simpa only [collectorAt_outside] using same

theorem settings : (u.collectorAt p).settings = (w.collectorAt p).settings := by
  have same := like.congr fun t => (t.collectorAt p).settings
  simpa only [collectorAt_outside] using same

theorem length : u.collectors.length = w.collectors.length := by
  have same := like.congr fun t => t.collectors.length
  simpa only [World.outside, List.length_modify] using same

end World.Beside

theorem outside_setRoster (perform : Performer) (w : World) (p : Place)
    (roster : Roster Callable Place) :
    ((collectorIn perform p).setRoster roster w).outside p = w.outside p := by
  have registry : (((collectorIn perform p).setRoster roster w).collectorAt p).registry =
      (w.collectorAt p).registry := by
    simp only [collectorIn, World.modifyCollector, World.collectorAt, List.getElem?_modify_eq]
    cases w.collectors[p]? <;> rfl
  -- what is put in is taken out again
  have emptied : (w.collectors.modify p fun c => { c with roster := roster }).modify p
      (fun c => { c with roster := ∅ }) =
        w.collectors.modify p fun c => { c with roster := ∅ } := by
    rw [List.modify_modify_eq]
    rfl
  rw [World.outside, registry]
  simp only [collectorIn, World.modifyCollector, emptied]
  rfl

/-- In the worlds that are the same outside the collector and in the registries, the roster is
what was put there last. -/
theorem storesRoster_beside (perform : Performer) (u : World) (p : Place) :
    (collectorIn perform p).StoresRoster fun t => p < t.collectors.length ∧
      t.outside p = u.outside p ∧ ∀ ref, t.registry ref = u.registry ref where
  valid_setRoster {t} h r := by
    refine ⟨(Collector.storesRoster_session p).valid_setRoster h.1 r,
      (outside_setRoster perform t p r).trans h.2.1, fun ref => ?_⟩
    rw [← h.2.2 ref]
    cases ref <;> rfl
  valid_log {t} h record := ⟨h.1, h.2.1, fun ref => by rw [← h.2.2 ref]; cases ref <;> rfl⟩
  roster_setRoster h r := (Collector.storesRoster_session p).roster_setRoster h.1 r
  roster_log _ _ := rfl

theorem collectorAt_setRegistry (w : World) (ref : RegistryRef) (r : Registry Place) (p : Place) :
    (w.setRegistry ref r).collectorAt p = w.collectorAt p := by
  cases ref <;> rfl

theorem outside_setRegistry (w : World) (r : Registry Place) (p : Place) :
    (w.setRegistry (w.collectorAt p).registry r).outside p = w.outside p := by
  rw [World.outside, World.outside, collectorAt_setRegistry]
  cases own : (w.collectorAt p).registry <;> simp [World.setRegistry, OrderedMap.insert_insert]

/-- Steps that act on the collector leave the world outside it, and a roster with texts for keys.
They change what stands under their subject, and nothing else. -/
structure Step.Leaves (w : World) (p : Place) (step : Step) (u v : World) : Prop where
  outside : v.outside p = u.outside p
  texts : Collector.HasTextKeys (v.collectorAt p).roster
  holder : ∀ s, v.holder p s =
    if step.subject w = some s then step.settle w s (u.holder p s) else u.holder p s

namespace Step.Leaves

/-- A step that changes nothing, where it has nothing to change. -/
theorem unchanged (texts : Collector.HasTextKeys (u.collectorAt p).roster)
    (idle : ∀ s, step.subject w = some s → step.settle w s (u.holder p s) = u.holder p s) :
    step.Leaves w p u u := by
  refine ⟨rfl, texts, fun s => ?_⟩
  split
  · rename_i about
    exact (idle s about).symm
  · rfl

/-- A step about nothing that changes nothing. -/
theorem aimless (texts : Collector.HasTextKeys (u.collectorAt p).roster)
    (none : step.subject w = none) : step.Leaves w p u u :=
  .unchanged texts fun s about => by simp [none] at about

/-- A step that changes the roster under its subject. -/
theorem of_roster {name : String} (about : step.subject w = some (.cache name))
    (outside : v.outside p = u.outside p)
    (registry : ∀ ref, v.registry ref = u.registry ref)
    (texts : Collector.HasTextKeys (v.collectorAt p).roster)
    (found : ∀ other, (v.collectorAt p).roster.get? (.text other) =
      if other = name then step.settle w (.cache name) (u.holder p (.cache name))
      else (u.collectorAt p).roster.get? (.text other)) : step.Leaves w p u v := by
  refine ⟨outside, texts, fun s => ?_⟩
  rw [about]
  cases s with
  | cache other =>
    rw [World.holder, found]
    by_cases same : other = name
    · subst same
      rw [if_pos rfl, if_pos rfl]
    · rw [if_neg same, if_neg (by simpa using Ne.symm same), World.holder]
  | bean n =>
    rw [if_neg (by simp), World.holder, World.holder, World.Beside.registry outside, registry]

/-- A step that changes the registry under its subject. -/
theorem of_registry {n : ObjectName} {r : Registry Place} {record : LogRecord}
    (about : step.subject w = some (.bean n))
    (texts : Collector.HasTextKeys (u.collectorAt p).roster)
    (found : ∀ m, r.get? m = if m = n then step.settle w (.bean n) (u.holder p (.bean n))
      else (u.registry (u.collectorAt p).registry).get? m) :
    step.Leaves w p u ((u.setRegistry (u.collectorAt p).registry r).log record) := by
  have collector : ((u.setRegistry (u.collectorAt p).registry r).log record).collectorAt p =
      u.collectorAt p := collectorAt_setRegistry u _ r p
  refine ⟨outside_setRegistry u r p, by rwa [collector], fun s => ?_⟩
  rw [about]
  cases s with
  | cache other => rw [if_neg (by simp), World.holder, World.holder, collector]
  | bean m =>
    rw [World.holder, collector, World.registry_log, World.registry_setRegistry, found]
    by_cases same : m = n
    · subst same
      rw [if_pos rfl, if_pos rfl]
    · rw [if_neg same, if_neg (by simpa using Ne.symm same), World.holder]

end Step.Leaves

/-! ### Names -/

/-- The object name that a step means is the one that its scripts come to. -/
theorem runFrom_objectName {perform : Performer} {name : NameScript}
    {r : Except Fault NameArgument} (evaluated : (nameArgument perform name).runFrom w = (r, w)) :
    (objectName perform name).runFrom w = (r.bind NameArgument.resolve, w) := by
  rw [objectName]
  cases r with
  | error f => exact runFrom_bind_of_error evaluated _
  | ok argument => exact runFrom_bind_of_ok evaluated _

/-- The name under which a cache is entered is read without effects, and is the same in all worlds
that are the same outside the collector. -/
theorem runFrom_entryName (plain : w.NamesPlainly p) (like : w.Beside p u) (q x : Place) :
    ((collectorIn nested q).entryName x).runFrom u = (w.entryKey x, u) := by
  have named : FixedOn (w.Beside p) ((collectorIn nested q).cacheName x) :=
    fixedOn_readCache plain.names (fun _ like => like.congr World.caches) x
  exact (Collector.fixedOn_entryName named).runFrom_eq like rfl

/-! ### Single steps -/

section

variable (plain : w.NamesPlainly p) (like : w.Beside p u)
  (texts : Collector.HasTextKeys (u.collectorAt p).roster)

include plain like texts

theorem leaves_addCache (held : p < w.collectors.length) {collector cache : String}
    (known : w.collectorIds.get? collector = some p) :
    (Step.addCache collector cache).Leaves w p u
      ((execute nested (.addCache collector cache)).runFrom u).2 := by
  have place : (collectorPlace collector).runFrom u = (.ok p, u) :=
    runFrom_collectorPlace ((like.congr (·.collectorIds.get? collector)).trans known)
  have ids : u.cacheIds = w.cacheIds := like.congr World.cacheIds
  rw [execute, runFrom_bind_of_ok place, runFrom_get_bind, lookUp, ids]
  rcases found : w.cacheIds.get? cache with _ | x
  · exact .aimless texts (by simp [Step.subject, found])
  have entered := runFrom_entryName plain like p x
  rw [pure_bind]
  rcases key : w.entryKey x with f | v <;> rw [key] at entered
  · have refused : ((collectorIn nested p).add x).runFrom u = (.error f, u) := by
      rw [Collector.add, runFrom_bind_of_error entered]
    rw [runFrom_bind_of_error refused]
    exact .aimless texts (by simp [Step.subject, found, key])
  rcases isKey : v.isKey with _ | _
  · have refused : ((collectorIn nested p).add x).runFrom u =
        (.error (.unhashable v.sort), u) := by
      rw [Collector.add, runFrom_bind_of_ok entered]
      simp only [isKey]
      rfl
    rw [runFrom_bind_of_error refused]
    refine .aimless texts ?_
    cases v with
    | list _ | dict _ => simp [Step.subject, found, key]
    | _ => cases isKey
  obtain ⟨name, rfl⟩ := plain.texts x v key isKey
  obtain ⟨t, run, ⟨-, outside, registry⟩, roster⟩ :=
    (storesRoster_beside nested u p).runFrom_add_of_entryName entered isKey
      ⟨like.length ▸ held, rfl, fun _ => rfl⟩
  have inserted : (t.collectorAt p).roster = (u.collectorAt p).roster.insert (.text name) x :=
    roster
  have about : (Step.addCache collector cache).subject w = some (.cache name) := by
    simp [Step.subject, found, key]
  rw [runFrom_bind_of_ok run]
  refine .of_roster about outside registry ?_ ?_
  · rw [runFrom_pure, inserted]
    exact texts.insert name x
  · intro other
    rw [runFrom_pure, inserted, Collector.get?_insert_text, Step.settle, found]

omit plain in
theorem leaves_removeCache (held : p < w.collectors.length) {collector : String}
    {name : Option String} (known : w.collectorIds.get? collector = some p) :
    (Step.removeCache collector name).Leaves w p u
      ((execute nested (.removeCache collector name)).runFrom u).2 := by
  have place : (collectorPlace collector).runFrom u = (.ok p, u) :=
    runFrom_collectorPlace ((like.congr (·.collectorIds.get? collector)).trans known)
  obtain ⟨t, run, ⟨-, outside, registry⟩, roster⟩ :=
    (storesRoster_beside nested u p).runFrom_remove ⟨like.length ▸ held, rfl, fun _ => rfl⟩ name
  have erased : (t.collectorAt p).roster = (u.collectorAt p).roster.erase (.text (name.getD "")) :=
    roster
  rw [execute, runFrom_bind_of_ok place, runFrom_bind_of_ok run, runFrom_get_bind, runFrom_pure]
  have about : (Step.removeCache collector name).subject w = some (.cache (name.getD "")) := rfl
  refine .of_roster about outside registry ?_ fun other => ?_
  · rw [erased]
    exact texts.erase _
  · rw [erased, Collector.get?_erase_text]
    rfl

omit plain in
theorem leaves_registerBean {ref : RegistryRef} {name : NameScript} {bean : String}
    (own : ref = (w.collectorAt p).registry)
    (fixed : FixedOn (w.Beside p) (nameArgument nested name)) :
    (Step.registerBean ref name bean).Leaves w p u
      ((execute nested (.registerBean ref name bean)).runFrom u).2 := by
  have ids : u.beanIds = w.beanIds := like.congr World.beanIds
  obtain rfl : ref = (u.collectorAt p).registry :=
    own.trans like.registry.symm
  obtain ⟨r, evaluated⟩ := fixed
  have about : (Step.registerBean (u.collectorAt p).registry name bean).subject w =
      (r.bind NameArgument.resolve).toOption.map .bean := by
    rw [Step.subject, runFrom_objectName (evaluated w rfl)]
  rw [execute, registerBean]
  rcases r with f | argument
  · rw [runFrom_bind_of_error (evaluated u like)]
    exact .aimless texts about
  rw [runFrom_bind_of_ok (evaluated u like), runFrom_get_bind, lookUp, ids]
  rcases known : w.beanIds.get? bean with _ | q
  · -- without the bean nothing can come under the name
    refine .unchanged texts fun s _ => ?_
    cases s with
    | cache _ => rfl
    | bean n => cases u.holder p (.bean n) <;> simp [Step.settle, known]
  rw [pure_bind]
  rcases resolved : argument.resolve with f | n <;> rw [Except.bind, resolved] at about
  · exact .aimless texts about
  rw [ofExcept_ok_bind, runFrom_get_bind]
  rcases outcome : (u.registry (u.collectorAt p).registry).register n q with f | r
  · -- nothing is registered under a pattern, and what is registered stays
    refine .unchanged texts fun s hs => ?_
    cases about.symm.trans hs
    rcases register_eq_error_iff.1 outcome with ⟨pattern, -⟩ | ⟨-, taken, -⟩
    · cases u.holder p (.bean n) <;> simp [Step.settle, pattern]
    · obtain ⟨held, hheld⟩ := Option.isSome_iff_exists.1 taken
      rw [World.holder, hheld]
      rfl
  · rw [ofExcept_ok_bind, runFrom_modify_bind, runFrom_pure]
    obtain ⟨pattern, free, rfl⟩ := register_eq_ok_iff.1 outcome
    refine .of_registry about texts fun m => ?_
    rw [OrderedMap.get?_insert, Function.update_apply, World.holder, free]
    simp [Step.settle, pattern, known]

omit plain in
theorem leaves_unregisterBean {ref : RegistryRef} {name : NameScript}
    (own : ref = (w.collectorAt p).registry)
    (fixed : FixedOn (w.Beside p) (nameArgument nested name)) :
    (Step.unregisterBean ref name).Leaves w p u
      ((execute nested (.unregisterBean ref name)).runFrom u).2 := by
  obtain rfl : ref = (u.collectorAt p).registry :=
    own.trans like.registry.symm
  obtain ⟨r, evaluated⟩ := fixed
  have named := runFrom_objectName (evaluated u like)
  have about : (Step.unregisterBean (u.collectorAt p).registry name).subject w =
      (r.bind NameArgument.resolve).toOption.map .bean := by
    rw [Step.subject, runFrom_objectName (evaluated w rfl)]
  rw [execute, unregisterBean]
  rcases resolved : r.bind NameArgument.resolve with f | n <;> rw [resolved] at about named
  · rw [runFrom_bind_of_error named]
    exact .aimless texts about
  rw [runFrom_bind_of_ok named, runFrom_get_bind]
  rcases outcome : (u.registry (u.collectorAt p).registry).unregister n with f | ⟨q, r⟩
  · refine .unchanged texts fun s hs => ?_
    cases about.symm.trans hs
    exact (unregister_eq_error_iff.1 outcome).1.symm
  · rw [ofExcept_ok_bind]
    simp only [runFrom_modify_bind, runFrom_get_bind, runFrom_pure]
    obtain ⟨-, rfl⟩ := unregister_eq_ok_iff.1 outcome
    refine .of_registry about texts fun m => ?_
    rw [OrderedMap.get?_erase, Function.update_apply]
    rfl

/-- What a step on the collector does, in a world that is the same outside it. -/
theorem leaves_execute (held : p < w.collectors.length) (acts : step.ActsOn w p) :
    step.Leaves w p u ((execute nested step).runFrom u).2 := by
  cases step with
  | addCache collector cache => exact leaves_addCache plain like texts held acts
  | removeCache collector name => exact leaves_removeCache like texts held acts
  | registerBean ref name bean => exact leaves_registerBean like texts acts.1 acts.2
  | unregisterBean ref name => exact leaves_unregisterBean like texts acts.1 acts.2
  | _ => cases acts

theorem leaves_reportOn (held : p < w.collectors.length) (acts : step.ActsOn w p) :
    step.Leaves w p u (reportOn step u).2 := by
  have ran := leaves_execute (u := { u with journal := [] }) plain like texts held acts
  exact ⟨ran.outside, ran.texts, fun s => (ran.holder s).trans (by cases s <;> rfl)⟩

/-- **What stands under a subject after a run** is what the steps about it make of what stood there
before; and the world outside stays. -/
theorem holder_worldAfter (held : p < w.collectors.length) {steps : List Step}
    (acts : ∀ step ∈ steps, step.ActsOn w p) :
    w.Beside p (worldAfter steps u) ∧
      Collector.HasTextKeys ((worldAfter steps u).collectorAt p).roster ∧
      ∀ s, (worldAfter steps u).holder p s =
        (steps.filter fun step => step.subject w = some s).foldl
          (fun held step => step.settle w s held) (u.holder p s) := by
  -- the world outside stays, and with it the subjects of the steps to come are those in `w`
  induction steps generalizing u with
  | nil => exact ⟨like, texts, fun _ => rfl⟩
  | cons step rest ih =>
    have left : step.Leaves w p u (reportOn step u).2 :=
      leaves_reportOn plain like texts held (acts step List.mem_cons_self)
    obtain ⟨beside, texts', holder⟩ := ih (left.outside.trans like) left.texts
      fun step' mem => acts step' (List.mem_cons_of_mem _ mem)
    refine ⟨beside, texts', fun s => (holder s).trans ?_⟩
    rw [left.holder, List.filter_cons]
    by_cases about : step.subject w = some s
    · simp only [about, if_true, decide_true, List.foldl_cons]
    · simp only [about, if_false, decide_false, Bool.false_eq_true]

end

end CacheTelemetry.Session
