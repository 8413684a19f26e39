import CacheTelemetry.Proofs.OrderedMap
import CacheTelemetry.Proofs.Session.Keeping
import CacheTelemetry.Proofs.Session.Quiet

/-!
# Steps that leave no trace

Where reading caches and beans has no effects but records in the log, three sorts of steps leave the
world as it is: queries, removals of caches that are not there, and steps that fail, whatever they
fail in. **Deleting any such steps from a run changes the answers of none of the others**
(`play_retain_of_isDeletable`), nor the records that the others write.

Scripts that are given with a step itself, in the name of a bean for instance, are evaluated when
the step is performed, and must have no effects either.
-/

namespace CacheTelemetry.Session

open Effect

variable {step : Step} {w v : World}

/-- Reading caches and beans has no effects in a world, but for records in the log. -/
def World.ReadsSilently (w : World) : Prop := ReadsKeep nested w.SameButLog

/-- The step removes a cache that is not there. -/
def Step.RemovesNothing (w : World) : Step → Prop
  | .removeCache collector name => ∃ p, w.collectorIds.get? collector = some p ∧
    (w.collectorAt p).roster.contains (.text (name.getD "")) = false
  | _ => False

/-- The step asks, removes nothing or fails, in a world where reads have no effects. -/
structure Step.IsDeletable (step : Step) (w : World) : Prop where
  reads : w.ReadsSilently
  arguments : step.ArgumentsKeep nested w.SameButLog
  sort : step.isQuery = true ∨ step.RemovesNothing w ∨ (reportOn step w).1.outcome.isOk = false

/-! ### Single steps -/

/-- Putting the roster of a collector where it is changes nothing. -/
theorem modifyCollector_roster_self (w : World) (p : Place) :
    (w.modifyCollector p fun c => { c with roster := (w.collectorAt p).roster }) = w := by
  have same : (w.collectors.modify p fun c => { c with roster := (w.collectorAt p).roster }) =
      w.collectors := by
    refine List.ext_getElem? fun i => ?_
    rw [List.getElem?_modify]
    by_cases h : p = i
    · subst h
      rcases hc : w.collectors[p]? with _ | c
      · rfl
      · simp [World.collectorAt, hc]
    · simp [h]
  rw [World.modifyCollector, same]

/-- Removing a cache that is not there changes nothing. -/
theorem runFrom_removeCache_of_removesNothing (h : step.RemovesNothing w) :
    (execute nested step).runFrom w = (.ok (.id none), w) := by
  cases step with
  | removeCache collector name =>
    obtain ⟨p, known, absent⟩ := h
    have removed : ((collectorIn nested p).remove name).runFrom w = (.ok none, w) := by
      have none : (w.collectorAt p).roster.get? (.text (name.getD "")) = none := by
        rw [← Option.not_isSome_iff_eq_none, ← OrderedMap.contains_eq_isSome_get?, absent]
        exact Bool.false_ne_true
      simp only [Collector.remove, runFrom_get_bind, runFrom_modify_bind, collectorIn, none,
        OrderedMap.erase_of_not_contains absent, modifyCollector_roster_self]
      rfl
    rw [execute, runFrom_bind_of_ok (runFrom_collectorPlace known), runFrom_bind_of_ok removed]
    rfl
  | _ => cases h

/-- A step that can be deleted leaves the same world, but for the log. -/
theorem Step.IsDeletable.sameButLog (h : step.IsDeletable w) :
    w.SameButLog (reportOn step w).2 := by
  -- a step starts with an empty log, so what it keeps is to be the same but for the log
  have start : w.SameButLog { w with journal := [] } := ⟨[], rfl⟩
  rcases h.sort with query | nothing | failed
  · exact keeps_execute_of_isQuery h.reads h.arguments query _ start
  · have run := runFrom_removeCache_of_removesNothing (w := { w with journal := [] }) nothing
    rw [reportOn, perform_eq_execute, run]
    exact start
  · rcases run : (perform step).runFrom { w with journal := [] } with ⟨f | answer, t⟩
    · rw [reportOn, run]
      exact keepsFailing_execute h.reads h.arguments _ f t start run
    · rw [reportOn, run] at failed
      cases failed

/-! ### Runs -/

/-- The items of a list in the places that are to be kept. -/
def retain {α : Type} (keep : Nat → Bool) : List α → List α
  | [] => []
  | a :: rest =>
    if keep 0 then a :: retain (fun i => keep (i + 1)) rest else retain (fun i => keep (i + 1)) rest

/-- Reports do not depend on what stands in the log. -/
theorem play_of_sameButLog (steps : List Step) (h : w.SameButLog v) :
    play steps v = play steps w := by
  obtain ⟨journal, rfl⟩ := h
  cases steps <;> rfl

/-- **Deleting steps that leave no trace changes no report on the others.** -/
theorem play_retain_of_isDeletable (steps : List Step) (keep : Nat → Bool) (w : World)
    (deletable : ∀ i step, steps[i]? = some step → keep i = false →
      step.IsDeletable (worldAfter (steps.take i) w)) :
    play (retain keep steps) w = retain keep (play steps w) := by
  induction steps generalizing keep w with
  | nil => rfl
  | cons step rest ih =>
    have later : play (retain (fun i => keep (i + 1)) rest) (reportOn step w).2 =
        retain (fun i => keep (i + 1)) (play rest (reportOn step w).2) :=
      ih _ _ fun i step' h dropped => deletable (i + 1) step' h dropped
    cases first : keep 0 with
    | true =>
      simp only [retain, play, first, if_true]
      rw [later]
    | false =>
      -- the others are performed in `w`, and not in what the step would have left
      have same : w.SameButLog (reportOn step w).2 := (deletable 0 step rfl first).sameButLog
      simp only [retain, play, first, Bool.false_eq_true, if_false]
      rw [← later, play_of_sameButLog _ same]

/-! ### Quiet worlds -/

/-- In a quiet world whose caches give their names without effects all reads are silent. -/
theorem readsSilently_of_isQuiet (h : w.isQuiet = true)
    (names : ∀ cache ∈ w.caches, cache.name.isQuiet = true) : w.ReadsSilently := by
  have fixed : w.ScriptsFixed nested w.SameButLog := scriptsFixed_of_isQuiet h
  have like : ∀ ref v, w.SameButLog v → w.LooksLike ref v := fun ref v same => same.looksLike ref
  have caches : ∀ v, w.SameButLog v → v.caches = w.caches := fun v same =>
    (like .main v same).caches
  exact
    { cacheName := fun x =>
        (fixedOn_readCache (fun cache mem => fixedOn_of_isQuiet (names cache mem)) caches x).keeps
      cacheUri := fun x => (fixedOn_readCache fixed.uris caches x).keeps
      askRegistered := fun ref n => (fixedOn_askRegistered fixed (like ref) n).keeps
      askAttribute := fun ref n attr => (fixedOn_askAttribute fixed (like ref) n attr).keeps
      log := World.SameButLog.log }

/-- A session in which a bean is registered twice, a cache is removed under a wrong name, a scrape
is aborted, and a collector clashes with the one of the process. -/
def untidySession : List Step :=
  [.newBean "bean" .stored [(Statistic.hits.attrName, .text "many")],
    .registerBean .main (.text "javax.cache:type=CacheStatistics,CacheManager=m,Cache=a") "bean",
    .registerBean .main (.text "javax.cache:type=CacheStatistics,CacheManager=m,Cache=a") "bean",
    .newCache "cache" (.text "a") (.text "m"),
    .addCache "main" "cache",
    .removeCache "main" (some "b"),
    .collect "main",
    .registered,
    .register "main" defaultMetrics,
    .removeCache "main" (some "a"),
    .size "main"]

/-- A tidier session has the same answers. -/
theorem play_retain_of_isDeletable_untidySession :
    play (retain (fun i => !([2, 5, 6, 8].contains i)) untidySession) default =
      retain (fun i => !([2, 5, 6, 8].contains i)) (play untidySession default) := by
  refine play_retain_of_isDeletable untidySession _ default fun i step h dropped => ?_
  have places : i = 2 ∨ i = 5 ∨ i = 6 ∨ i = 8 := by
    simpa only [Bool.not_eq_false', List.contains_iff_mem, List.mem_cons, List.not_mem_nil,
      or_false] using dropped
  have silent : ∀ i, i < 9 → (worldAfter (untidySession.take i) default).ReadsSilently := by
    intro i hi
    have quiet : ∀ i < 9, (worldAfter (untidySession.take i) default).isQuiet = true ∧
        ∀ cache ∈ (worldAfter (untidySession.take i) default).caches,
          cache.name.isQuiet = true := by decide +kernel
    exact readsSilently_of_isQuiet (quiet i hi).1 (quiet i hi).2
  rcases places with rfl | rfl | rfl | rfl <;> cases h
  · exact ⟨silent 2 (by decide), Keeps.pure _, .inr (.inr (by decide +kernel))⟩
  · exact ⟨silent 5 (by decide), trivial, .inr (.inl ⟨0, by decide +kernel, by decide +kernel⟩)⟩
  · exact ⟨silent 6 (by decide), trivial, .inl rfl⟩
  · exact ⟨silent 8 (by decide), trivial, .inr (.inr (by decide +kernel))⟩

end CacheTelemetry.Session
