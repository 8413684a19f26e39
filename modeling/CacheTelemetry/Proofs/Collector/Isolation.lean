import CacheTelemetry.Proofs.Collector.Blocking
import CacheTelemetry.Proofs.Collector.Faults
import CacheTelemetry.Proofs.Registry.History
import CacheTelemetry.Proofs.Session.Quiet
import CacheTelemetry.Session.Run

/-!
# When a scrape fails

From a steady state a scrape fails exactly if some entry blocks it, and the first such entry decides
how: a malformed entry ends it with a malformed name, a failing one with statistics that could not
be read, and a leaking one with the fault that leaks (`readings_of_not_blocks`,
`readings_of_isMalformed`, `readings_of_isIsolable`, `readings_of_leaks`).

Hence **isolating failures is leaving out the entries that fail without leaking**: with isolation a
scrape ends as it would without isolation, had these entries never been entered
(`collect_isolation`). Malformed entries are not isolated, whatever stands before or behind them,
and neither are failures that cannot be put into words.
-/

namespace CacheTelemetry

namespace Outlook

open Collector Effect

variable {κ χ : Type} [BEq κ] {o : Outlook κ χ} {roster : Roster κ χ} {records : List LogRecord}
  {entries before after : List (Value κ × χ)} {e : Value κ × χ} {f : Fault}

/-! ### Failing entries -/

/-- The look for the statistics of a failing entry ends in a failure to read them, or in a fault
that leaks. -/
theorem readStatistics_of_isFailing (roster : Roster κ χ) (records : List LogRecord)
    (orderly : o.IsOrderly entries) (h : o.IsFailing e) :
    ∃ n f, o.Names e n ∧
      ((o.still roster).readStatistics n).runFrom records = (.error f, records) ∧
      (f.kind = .statisticsRead ∨ o.Leaks e f) := by
  obtain ⟨n, w, names, pattern, toSay⟩ := h.exists_hasToSay
  obtain ⟨f, failed, which⟩ := readStatistics_of_hasToSay roster records orderly.isRegistered
    orderly.attr pattern toSay
  refine ⟨n, f, names, failed, ?_⟩
  by_cases kind : f.kind = .statisticsRead
  · exact .inl kind
  · rcases which with ⟨-, unread⟩ | unsaid
    · exact absurd unread kind
    · exact .inr ⟨n, w, names, pattern, toSay, unsaid, kind⟩

/-- The look for the statistics of a leaking entry ends in the fault that leaks. -/
theorem readStatistics_of_leaks (roster : Roster κ χ) (records : List LogRecord)
    (orderly : o.IsOrderly entries) (h : o.Leaks e f) :
    ∃ n, o.Names e n ∧
      ((o.still roster).readStatistics n).runFrom records = (.error f, records) := by
  obtain ⟨n, w, names, pattern, toSay, unsaid, -⟩ := h
  obtain ⟨g, failed, ⟨⟨text, said⟩, -⟩ | unsaid'⟩ := readStatistics_of_hasToSay roster records
    orderly.isRegistered orderly.attr pattern toSay
  · cases said.symm.trans unsaid
  · cases unsaid.symm.trans unsaid'
    exact ⟨n, names, failed⟩

/-- The visit of a leaking entry fails, whether failures are isolated or not. -/
theorem visit_of_leaks (orderly : o.IsOrderly entries) (h : o.Leaks e f) :
    ((o.still roster).visit e.1 e.2).runFrom records = (.error f, records) := by
  obtain ⟨n, names, failed⟩ := readStatistics_of_leaks roster records orderly h
  have unread : f.kind ≠ .statisticsRead := by
    obtain ⟨-, -, -, -, -, -, kind⟩ := h
    exact kind
  exact (visit_eq_error_iff_of_nameFor (runFrom_still_nameFor_of_names names)).2
    ⟨failed, fun isolated => unread isolated.1⟩

/-- The look for the statistics of an isolable entry ends in a failure to read them. -/
theorem readStatistics_of_isIsolable (roster : Roster κ χ) (records : List LogRecord)
    (orderly : o.IsOrderly entries) (h : o.IsIsolable e) :
    ∃ n f, o.Names e n ∧ f.kind = .statisticsRead ∧
      ((o.still roster).readStatistics n).runFrom records = (.error f, records) := by
  obtain ⟨n, f, names, failed, kind | leaks⟩ :=
    readStatistics_of_isFailing roster records orderly h.1
  · exact ⟨n, f, names, kind, failed⟩
  · exact absurd leaks (h.2 f)

/-- Where failures are isolated, an isolable entry is skipped. -/
theorem visit_of_isIsolable_isolated (orderly : o.IsOrderly entries)
    (isolated : o.settings.isolateFailures = true) (h : o.IsIsolable e) :
    ∃ records', ((o.still roster).visit e.1 e.2).runFrom records = (.ok .skipped, records') := by
  obtain ⟨n, f, names, kind, failed⟩ := readStatistics_of_isIsolable roster records orderly h
  have skipped : ∃ records', ((o.still roster).handleFailure e.1 n f).runFrom records =
      (.ok .skipped, records') := by
    rw [handleFailure, runFrom_get_bind, if_pos ⟨kind, isolated⟩]
    exact ⟨_, rfl⟩
  rw [runFrom_visit (runFrom_still_nameFor_of_names names), failed]
  exact skipped

/-- Where failures are not isolated, the visit of an isolable entry fails. -/
theorem visit_of_isIsolable (orderly : o.IsOrderly entries)
    (unisolated : o.settings.isolateFailures = false) (h : o.IsIsolable e) :
    ∃ f, f.kind = .statisticsRead ∧
      ((o.still roster).visit e.1 e.2).runFrom records = (.error f, records) := by
  obtain ⟨n, f, names, kind, failed⟩ := readStatistics_of_isIsolable roster records orderly h
  refine ⟨f, kind, (visit_eq_error_iff_of_nameFor (runFrom_still_nameFor_of_names names)).2
    ⟨failed, ?_⟩⟩
  rintro ⟨-, isolated⟩
  exact absurd (unisolated.symm.trans isolated) (by decide)

/-! ### The walk -/

/-- An entry that does not block is visited, and sampled if it has counts to give. -/
theorem exists_visit (roster : Roster κ χ) (records : List LogRecord)
    (orderly : o.IsOrderly entries) (he : e ∈ entries) (h : ¬ o.Blocks e) :
    ∃ outcome records', ((o.still roster).visit e.1 e.2).runFrom records =
      (.ok outcome, records') := by
  obtain ⟨uri, hu, written⟩ := orderly.exists_uri he
  rcases entry_cases hu written with malformed | ⟨k, gives⟩ | absent | failing
  · exact absurd (.inl malformed) h
  · exact ⟨_, _, (visit_still_eq_sampled_iff hu).2 ⟨counts?_eq_some_iff.2 gives, rfl⟩⟩
  · exact ⟨_, visit_of_isAbsent absent⟩
  · rcases hi : o.settings.isolateFailures with _ | _
    · exact absurd (.inr (.inl ⟨hi, failing⟩)) h
    · have isolable : o.IsIsolable e := ⟨failing, fun f leaks => h (.inr (.inr ⟨f, leaks⟩))⟩
      exact ⟨_, visit_of_isIsolable_isolated orderly hi isolable⟩

/-- A walk over entries that do not block gives the readings that there are. -/
theorem visitAll_of_not_blocks (roster : Roster κ χ) (records : List LogRecord)
    (orderly : o.IsOrderly entries) (h : ∀ e ∈ entries, ¬ o.Blocks e) :
    ∃ records', ((o.still roster).visitAll entries).runFrom records =
      (.ok (o.given entries), records') := by
  induction entries generalizing records with
  | nil => exact ⟨records, rfl⟩
  | cons e rest ih =>
    obtain ⟨he, hrest⟩ := List.forall_mem_cons.1 h
    obtain ⟨uri, hu, -⟩ := orderly.uri e List.mem_cons_self
    obtain ⟨outcome, records₁, hv⟩ :=
      exists_visit roster records orderly List.mem_cons_self he
    obtain ⟨records₂, hothers⟩ :=
      ih records₁ (orderly.mono (List.subset_cons_self e rest)) hrest
    refine ⟨records₂, ?_⟩
    rw [visitAll, runFrom_bind_of_ok hv, runFrom_bind_of_ok hothers]
    -- the outcome tells whether the entry has counts to give
    have sampled : ∀ k, o.counts? e = some k ↔ outcome = .sampled k := by
      intro k
      constructor
      · intro hk
        cases hv.symm.trans ((visit_still_eq_sampled_iff hu).2 ⟨hk, rfl⟩)
        rfl
      · rintro rfl
        exact ((visit_still_eq_sampled_iff hu).1 hv).1
    cases outcome with
    | sampled k =>
      rw [given_cons_of_some ((sampled k).2 rfl)]
      rfl
    | unregistered | skipped =>
      have none : o.counts? e = none :=
        Option.eq_none_iff_forall_ne_some.2 fun k hk => by cases (sampled k).1 hk
      rw [given_cons_of_none none]
      rfl

/-- A walk over entries that do not block gives the readings that there are. -/
theorem readings_of_not_blocks (orderly : o.IsOrderly entries) (h : ∀ e ∈ entries, ¬ o.Blocks e) :
    o.readings entries = .ok (o.given entries) := by
  obtain ⟨records, hwalk⟩ := visitAll_of_not_blocks ∅ [] orderly h
  rw [readings, hwalk]

/-- A walk ends with the visit of the first entry that blocks. -/
theorem readings_of_visit (orderly : o.IsOrderly (before ++ e :: after))
    (h : ∀ e ∈ before, ¬ o.Blocks e) {P : Fault → Prop}
    (failed : ∀ records, ∃ f records', P f ∧
      ((o.still ∅).visit e.1 e.2).runFrom records = (.error f, records')) :
    ∃ f, P f ∧ o.readings (before ++ e :: after) = .error f := by
  obtain ⟨records, hbefore⟩ := visitAll_of_not_blocks ∅ []
    (orderly.mono (List.subset_append_left before (e :: after))) h
  obtain ⟨f, records', hf, hv⟩ := failed records
  refine ⟨f, hf, ?_⟩
  rw [readings, visitAll_append, runFrom_bind_of_ok hbefore, visitAll]
  rw [runFrom_bind_of_error (runFrom_bind_of_error hv _)]

/-- A walk fails at a malformed entry if no entry before it blocks; how it fails is decided by the
address. -/
theorem readings_of_isMalformed (orderly : o.IsOrderly (before ++ e :: after))
    (h : ∀ e ∈ before, ¬ o.Blocks e) (malformed : o.IsMalformed e) :
    ∃ f, f.kind = .malformedName ∧
      (∃ uri, o.uri e.2 = .ok uri ∧ o.settings.nameOf uri e.1 = .error f) ∧
      o.readings (before ++ e :: after) = .error f := by
  obtain ⟨uri, hu, written⟩ := orderly.exists_uri (e := e) (by simp)
  obtain ⟨f, hn⟩ := (isMalformed_iff hu written).1 malformed
  obtain ⟨unusable, rfl⟩ := Settings.exists_unusable_of_nameOf written.1 written.2 hn
  obtain ⟨_, rfl, failed⟩ := readings_of_visit orderly h (P := (· = .unusableCacheName unusable))
    fun records => ⟨_, records, rfl, visit_of_isMalformed hu hn⟩
  exact ⟨_, rfl, ⟨uri, hu, hn⟩, failed⟩

/-- Where failures are not isolated, a walk fails at an isolable entry if no entry before it
blocks. -/
theorem readings_of_isIsolable (orderly : o.IsOrderly (before ++ e :: after))
    (h : ∀ e ∈ before, ¬ o.Blocks e) (unisolated : o.settings.isolateFailures = false)
    (isolable : o.IsIsolable e) :
    ∃ f, f.kind = .statisticsRead ∧ o.readings (before ++ e :: after) = .error f := by
  refine readings_of_visit orderly h fun records => ?_
  obtain ⟨f, kind, failed⟩ := visit_of_isIsolable orderly unisolated isolable
  exact ⟨f, records, kind, failed⟩

/-- A walk fails at a leaking entry if no entry before it blocks, with the fault that leaks. -/
theorem readings_of_leaks (orderly : o.IsOrderly (before ++ e :: after))
    (h : ∀ e ∈ before, ¬ o.Blocks e) (leaks : o.Leaks e f) :
    o.readings (before ++ e :: after) = .error f := by
  obtain ⟨_, rfl, failed⟩ := readings_of_visit orderly h (P := (· = f))
    fun records => ⟨f, records, rfl, visit_of_leaks orderly leaks⟩
  exact failed

omit [BEq κ] in
/-- A failing entry leaks or is isolable. -/
theorem IsFailing.leaks_or_isIsolable (failing : o.IsFailing e) :
    (∃ f, o.Leaks e f) ∨ o.IsIsolable e := by
  by_cases leaks : ∃ f, o.Leaks e f
  · exact .inl leaks
  · exact .inr ⟨failing, not_exists.1 leaks⟩

/-- A walk fails exactly if some entry blocks. -/
theorem exists_readings_eq_error_iff (orderly : o.IsOrderly entries) :
    (∃ f, o.readings entries = .error f) ↔ ∃ e ∈ entries, o.Blocks e := by
  constructor
  · rintro ⟨f, hf⟩
    by_contra none
    push Not at none
    rw [readings_of_not_blocks orderly none] at hf
    cases hf
  · intro h
    obtain ⟨before, e, after, rfl, blocks, first⟩ := exists_first h
    rcases blocks with malformed | ⟨unisolated, failing⟩ | ⟨f, leaks⟩
    · obtain ⟨f, -, -, hf⟩ := readings_of_isMalformed orderly first malformed
      exact ⟨f, hf⟩
    · rcases failing.leaks_or_isIsolable with ⟨f, leaks⟩ | isolable
      · exact ⟨f, readings_of_leaks orderly first leaks⟩
      · obtain ⟨f, -, hf⟩ := readings_of_isIsolable orderly first unisolated isolable
        exact ⟨f, hf⟩
    · exact ⟨f, readings_of_leaks orderly first leaks⟩

/-! ### Two settings -/

/-- Isolating failures is leaving out the isolable entries. -/
theorem readings_isolating_true (orderly : o.IsOrderly entries) {keep : Value κ × χ → Bool}
    (hkeep : ∀ e ∈ entries, keep e = true ↔ ¬ o.IsIsolable e) :
    (o.isolating true).readings entries = (o.isolating false).readings (entries.filter keep) := by
  have isolated := orderly.isolating true
  have kept : (o.isolating false).IsOrderly (entries.filter keep) :=
    (orderly.mono (List.filter_subset_self entries)).isolating false
  by_cases blocked : ∃ e ∈ entries, (o.isolating true).Blocks e
  · obtain ⟨before, e, after, rfl, he, first⟩ := exists_first blocked
    have he' : o.IsMalformed e ∨ ∃ f, o.Leaks e f := blocks_isolating_true.1 he
    have stays : keep e = true := by
      refine (hkeep e (by simp)).2 fun isolable => ?_
      rcases he' with malformed | ⟨f, leaks⟩
      · exact malformed.not_isFailing isolable.1
      · exact isolable.2 f leaks
    have first' : ∀ e' ∈ before.filter keep, ¬ (o.isolating false).Blocks e' :=
      not_blocks_of_mem_filter (fun e' he' => hkeep e' (List.mem_append_left _ he')) first
    rw [List.filter_append, List.filter_cons_of_pos stays] at kept ⊢
    -- both walks end at the same entry, with the same address or the same leak
    rcases he' with malformed | ⟨f, leaks⟩
    · obtain ⟨f, -, ⟨uri, hu, hn⟩, hfault⟩ := readings_of_isMalformed isolated first malformed
      obtain ⟨f', -, ⟨uri', hu', hn'⟩, hfault'⟩ := readings_of_isMalformed kept first' malformed
      cases hu.symm.trans hu'
      cases hn.symm.trans hn'
      rw [hfault, hfault']
    · rw [readings_of_leaks isolated first (leaks_isolating.2 leaks),
        readings_of_leaks kept first' (leaks_isolating.2 leaks)]
  · push Not at blocked
    rw [readings_of_not_blocks isolated blocked,
      readings_of_not_blocks kept (not_blocks_of_mem_filter hkeep blocked)]
    exact congrArg _ (given_filter hkeep).symm

/-- Where nothing fails, isolating failures makes no difference. -/
theorem readings_isolating_of_ne_error (orderly : o.IsOrderly entries)
    (h : ∀ f, (o.isolating false).readings entries ≠ .error f) :
    (o.isolating true).readings entries = (o.isolating false).readings entries := by
  have sound : ∀ e ∈ entries, ¬ (o.isolating false).Blocks e := by
    intro e he blocks
    obtain ⟨f, hf⟩ := (exists_readings_eq_error_iff (orderly.isolating false)).2 ⟨e, he, blocks⟩
    exact h f hf
  have sound' : ∀ e ∈ entries, ¬ (o.isolating true).Blocks e := by
    intro e he blocks
    refine sound e he (blocks_isolating_false.2 ((blocks_isolating_true.1 blocks).imp_right ?_))
    rintro ⟨f, leaks⟩
    exact leaks.isFailing
  rw [readings_of_not_blocks (orderly.isolating true) sound',
    readings_of_not_blocks (orderly.isolating false) sound]
  rfl

end Outlook

namespace Collector

variable {κ χ σ : Type} [BEq κ] {c : Collector σ κ χ} {s : σ}

/-- The collector with failures isolated or not. -/
def isolating (isolate : Bool) (c : Collector σ κ χ) : Collector σ κ χ :=
  { c with settings := fun s => { c.settings s with isolateFailures := isolate } }

/-- The collector with some of its entries only. -/
def keeping (keep : Value κ × χ → Bool) (c : Collector σ κ χ) : Collector σ κ χ :=
  { c with roster := fun s => (c.roster s).filter keep }

theorem Steady.isolating (h : c.Steady s) (isolate : Bool) : (c.isolating isolate).Steady s := by
  intro t reached
  exact congrArg (Outlook.isolating isolate) (h t (reached.of_eq rfl rfl rfl rfl rfl))

theorem Steady.keeping (h : c.Steady s) (keep : Value κ × χ → Bool) : (c.keeping keep).Steady s :=
  fun t reached => h t (reached.of_eq rfl rfl rfl rfl rfl)

/-- **When a scrape fails, and what isolation means.** With isolation a scrape fails over malformed
and leaking entries only; without it over malformed and failing ones. In both cases the first such
entry decides how: a malformed one ends the scrape with a malformed name, a leaking one with the
fault that leaks, and a failing one that does not leak with a failure to read statistics. A scrape
that returns without isolation returns the same with it, and isolating failures is the same as
leaving out the entries that fail without leaking. -/
theorem collect_isolation (steady : c.Steady s)
    (orderly : (c.outlook s).IsOrderly (c.roster s).entries) :
    ((∃ f, ((c.isolating true).collect.runFrom s).1 = .error f) ↔
        ∃ e ∈ (c.roster s).entries,
          (c.outlook s).IsMalformed e ∨ ∃ f, (c.outlook s).Leaks e f) ∧
      (∀ before e after, (c.roster s).entries = before ++ e :: after →
        (∀ e' ∈ before,
          ¬ ((c.outlook s).IsMalformed e' ∨ ∃ f, (c.outlook s).Leaks e' f)) →
        ((c.outlook s).IsMalformed e → ∃ f,
          ((c.isolating true).collect.runFrom s).1 = .error f ∧ f.kind = .malformedName) ∧
        ∀ f, (c.outlook s).Leaks e f → ((c.isolating true).collect.runFrom s).1 = .error f) ∧
      ((∃ f, ((c.isolating false).collect.runFrom s).1 = .error f) ↔
        ∃ e ∈ (c.roster s).entries, (c.outlook s).IsMalformed e ∨ (c.outlook s).IsFailing e) ∧
      (∀ before e after, (c.roster s).entries = before ++ e :: after →
        (∀ e' ∈ before, ¬ ((c.outlook s).IsMalformed e' ∨ (c.outlook s).IsFailing e')) →
        ((c.outlook s).IsMalformed e → ∃ f,
          ((c.isolating false).collect.runFrom s).1 = .error f ∧ f.kind = .malformedName) ∧
        ((c.outlook s).IsFailing e → (∀ f, ¬ (c.outlook s).Leaks e f) → ∃ f,
          ((c.isolating false).collect.runFrom s).1 = .error f ∧ f.kind = .statisticsRead) ∧
        ∀ f, (c.outlook s).Leaks e f → ((c.isolating false).collect.runFrom s).1 = .error f) ∧
      (∀ families, ((c.isolating false).collect.runFrom s).1 = .ok families →
        ((c.isolating true).collect.runFrom s).1 = .ok families) ∧
      ∀ keep : Value κ × χ → Bool,
        (∀ e ∈ (c.roster s).entries, keep e = true ↔
          ¬ ((c.outlook s).IsFailing e ∧ ∀ f, ¬ (c.outlook s).Leaks e f)) →
        ((c.isolating true).collect.runFrom s).1 =
          (((c.isolating false).keeping keep).collect.runFrom s).1 := by
  have outcome : ∀ isolate, ((c.isolating isolate).collect.runFrom s).1 =
      (((c.outlook s).isolating isolate).readings (c.roster s).entries).map Family.allOf :=
    fun isolate => (steady.isolating isolate).collect_eq
  have ordered := fun isolate => orderly.isolating isolate
  simp only [outcome, Effect.map_eq_error_iff]
  refine ⟨?_, ?_, ?_, ?_, ?_, ?_⟩
  · simp only [Outlook.exists_readings_eq_error_iff (ordered true), Outlook.blocks_isolating_true]
  · intro before e after hentries first
    rw [hentries] at ordered ⊢
    have first' : ∀ e' ∈ before, ¬ ((c.outlook s).isolating true).Blocks e' := by
      intro e' he'
      rw [Outlook.blocks_isolating_true]
      exact first e' he'
    constructor
    · intro malformed
      obtain ⟨f, kind, -, hf⟩ := Outlook.readings_of_isMalformed (ordered true) first' malformed
      exact ⟨f, hf, kind⟩
    · intro f leaks
      exact Outlook.readings_of_leaks (ordered true) first' (Outlook.leaks_isolating.2 leaks)
  · simp only [Outlook.exists_readings_eq_error_iff (ordered false), Outlook.blocks_isolating_false]
  · intro before e after hentries first
    rw [hentries] at ordered ⊢
    have first' : ∀ e' ∈ before, ¬ ((c.outlook s).isolating false).Blocks e' := by
      intro e' he'
      rw [Outlook.blocks_isolating_false]
      exact first e' he'
    refine ⟨fun malformed => ?_, fun failing tells => ?_, fun f leaks => ?_⟩
    · obtain ⟨f, kind, -, hf⟩ := Outlook.readings_of_isMalformed (ordered false) first' malformed
      exact ⟨f, hf, kind⟩
    · have isolable : ((c.outlook s).isolating false).IsIsolable e :=
        ⟨failing, fun f leaks => tells f (Outlook.leaks_isolating.1 leaks)⟩
      obtain ⟨f, kind, hf⟩ :=
        Outlook.readings_of_isIsolable (ordered false) first' rfl isolable
      exact ⟨f, hf, kind⟩
    · exact Outlook.readings_of_leaks (ordered false) first' (Outlook.leaks_isolating.2 leaks)
  · intro families returned
    have unfailing : ∀ f,
        ((c.outlook s).isolating false).readings (c.roster s).entries ≠ .error f := by
      intro f hf
      rw [hf] at returned
      cases returned
    rwa [Outlook.readings_isolating_of_ne_error orderly unfailing]
  · intro keep hkeep
    rw [Outlook.readings_isolating_true orderly hkeep]
    exact ((steady.isolating false).keeping keep).collect_eq.symm

/-- A registry that fails to give any attribute. -/
def brokenRegistry : Outlook Empty Unit where
  settings := .standard
  uri _ := .ok (.text "m")
  isRegistered _ := .ok (.bool true)
  attr _ _ := .error (.raised .key "gone")
  word _ := .ok "gone"

/-- A cache with a failing entry and, after it, a malformed one. -/
def failingThenMalformed : Roster Empty Unit := .ofList [(.text "a", ()), (.text "b\"", ())]

/-- Without isolation the failing entry decides, with isolation the malformed one. -/
theorem collect_isolation_brokenRegistry :
    let c := brokenRegistry.still failingThenMalformed
    (∃ f, ((c.isolating false).collect.runFrom []).1 = .error f ∧ f.kind = .statisticsRead) ∧
      ∃ f, ((c.isolating true).collect.runFrom []).1 = .error f ∧ f.kind = .malformedName := by
  intro c
  have outlook : c.outlook [] = brokenRegistry := Outlook.outlook_still
  have orderly : (c.outlook []).IsOrderly (c.roster []).entries := by
    rw [outlook]
    refine ⟨fun _ _ => ⟨_, rfl, rfl⟩, by decide, fun n f h => ?_, fun n st f h => ?_⟩
    · cases h
    · cases h
      rfl
  have failing : brokenRegistry.IsFailing (.text "a", ()) := by
    obtain ⟨n, hn⟩ := (Settings.standard.exists_nameOf_iff (.text "m" : Value Empty)
      (.text "a")).2 (by decide)
    refine ⟨n, ⟨_, rfl, hn⟩, ?_, .inr ⟨⟨_, rfl, rfl⟩, .hits, fun i h => by cases h⟩⟩
    rw [Settings.isPattern_of_nameOf hn]
    decide
  have told : ∀ e f, ¬ brokenRegistry.Leaks e f := by
    rintro e f ⟨n, w, -, -, -, unsaid, -⟩
    rw [Outlook.said] at unsaid
    split at unsaid <;> cases unsaid
  have malformed : brokenRegistry.IsMalformed (.text "b\"", ()) := .inl (by decide)
  obtain ⟨-, isolated, -, unisolated, -⟩ :=
    collect_isolation (Steady.still brokenRegistry failingThenMalformed []) orderly
  rw [outlook] at isolated unisolated
  refine ⟨(unisolated [] _ _ rfl (by simp)).2.1 failing (told _),
    (isolated [(.text "a", ())] _ [] rfl ?_).1 malformed⟩
  simp only [List.forall_mem_singleton, not_or, not_exists]
  exact ⟨fun marked => marked.not_isFailing failing, told _⟩

open Session in
/-- A collector with one cache, whose first count is a list with an integer that is not written. -/
def unwritableCount : World :=
  { (default : World) with
    beans := [⟨"bean", .stored, .ofList [("CacheHits", .value (.list [.int firstUnwritable]))]⟩]
    caches := [⟨"cache", .text "users", .text "m"⟩]
    collectors := [⟨.main, 0, .ofList [(.text "users", 0)]⟩]
    registries := .ofList [("main", Registry.serve ∅ (.register
      (.text "javax.cache:type=CacheStatistics,CacheManager=m,Cache=users") 0))] }

/-- The count cannot be put into words, which is no failure to read statistics. So the scrape fails
where failures are isolated, although no entry is malformed. -/
theorem collect_isolation_unwritableCount :
    let c := Session.collector 0
    c.Steady unwritableCount ∧
      (c.outlook unwritableCount).IsOrderly (c.roster unwritableCount).entries ∧
      (∃ f, ((c.isolating true).collect.runFrom unwritableCount).1 = .error f ∧
        f.kind = .value) ∧
      ¬ ∃ e ∈ (c.roster unwritableCount).entries, (c.outlook unwritableCount).IsMalformed e := by
  intro c
  refine ⟨Session.steady_of_isQuiet (by decide +kernel) 0, ⟨?_, ?_, ?_, ?_⟩, ?_, ?_⟩
  · intro e he
    obtain rfl := List.mem_singleton.1 he
    exact ⟨.text "m", rfl, rfl⟩
  · intro e he
    obtain rfl := List.mem_singleton.1 he
    rfl
  · intro n f failed
    cases failed
  · intro n st f failed
    have read : (c.outlook unwritableCount).attr n st =
        (((unwritableCount.registry .main).readAttribute
          (Session.beanView (fun step => do let _ ← Session.perform step) unwritableCount)
          (Session.call fun step => do let _ ← Session.perform step) Session.wording n
          st.attrName).runFrom unwritableCount).1 := rfl
    rw [read, Registry.readAttribute] at failed
    -- there is one bean at most, and it has one attribute
    rcases found : (unwritableCount.registry .main).get? n with _ | _ | p <;> rw [found] at failed
    · cases failed
      rfl
    · cases st <;> cases failed
      all_goals rfl
    · cases failed
      rfl
  · exact Effect.exists_of_endsInKind (by decide +kernel)
  · rintro ⟨e, he, marked⟩
    obtain rfl := List.mem_singleton.1 he
    rcases marked with marked | ⟨uri, read, marked⟩
    · exact absurd marked (by decide)
    · cases read
      exact absurd marked (by decide)

end Collector

end CacheTelemetry
