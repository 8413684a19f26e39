import CacheTelemetry.Proofs.Collector.Asking
import CacheTelemetry.Proofs.Collector.Keeping
import CacheTelemetry.Proofs.Collector.Labels
import CacheTelemetry.Proofs.Collector.Records
import Mathlib.Data.List.Forall2

/-!
# The account of a scrape

A scrape that returns has given an *account* of each cache: the label, the name that its statistics
go by, and what became of it. A cache is sampled, and then it has one sample in each family and no
record; or there are no statistics for it, and a record of detail says so; or its statistics could
not be read, and a warning says so.

Which of these it is depends on the outlook alone, and no two of them can be true of one entry
(`Outlook.Becomes.unique`). **The samples and the records of a scrape are those of its accounts, and
there is one account for each entry, in the order of the roster** (`collect_accounts`).
-/

namespace CacheTelemetry

namespace Collector

/-- What a scrape has to tell of an entry. -/
structure Account (κ : Type) where
  label : Value κ
  name : ObjectName
  outcome : Visit

namespace Account

variable {κ : Type}

/-- The reading of a cache that is sampled. -/
def reading? (a : Account κ) : Option (Reading κ) :=
  match a.outcome with
  | .sampled k => some ⟨a.label, k⟩
  | _ => none

/-- The sample of a cache that is sampled, in the family of a statistic. -/
def sample? (st : Statistic) (a : Account κ) : Option (Sample κ) :=
  match a.outcome with
  | .sampled k => some (a.label, k.get st)
  | _ => none

/-- The record of a cache that is not sampled. -/
def record? (a : Account κ) : Option LogRecord :=
  match a.outcome with
  | .sampled _ => none
  | .unregistered => some (.detail .collector
    ("No statistics registered for cache " ++ a.label.quoted ++ " (" ++ a.name.canonical ++ ")"))
  | .skipped => some ⟨.collector, .warning,
    "Skipping cache " ++ a.label.quoted ++ ": failed to read statistics from " ++
      a.name.canonical, some .statisticsRead⟩

/-- The samples of a family are those of the accounts. -/
theorem samples_ofReadings (accounts : List (Account κ)) (st : Statistic) :
    (Family.ofReadings (accounts.filterMap reading?) st).samples =
      accounts.filterMap (sample? st) := by
  have each : (fun a => (reading? a).map fun r => (r.label, r.counts.get st)) =
      sample? (κ := κ) st := by
    funext a
    rcases a with ⟨label, name, _ | _ | _⟩ <;> rfl
  rw [Family.ofReadings, List.map_filterMap, each]

/-- Each account has a sample or a record, and not both. -/
theorem length_records_add_samples (accounts : List (Account κ)) (st : Statistic) :
    (accounts.filterMap record?).length + (accounts.filterMap (sample? st)).length =
      accounts.length := by
  induction accounts with
  | nil => rfl
  | cons a rest ih =>
    rcases a with ⟨label, name, k | _ | _⟩
    · have record : record? ⟨label, name, .sampled k⟩ = none := rfl
      have sample : sample? st ⟨label, name, .sampled k⟩ = some (label, k.get st) := rfl
      rw [List.filterMap_cons_none record, List.filterMap_cons_some sample]
      simp only [List.length_cons]
      omega
    all_goals
      simp only [List.filterMap_cons, record?, sample?, List.length_cons]
      omega

end Account

end Collector

namespace Outlook

open Collector Effect

variable {κ χ : Type} {o : Outlook κ χ} {e : Value κ × χ} {n m : ObjectName} {v v' : Visit}

/-- What becomes of an entry. -/
def Becomes (o : Outlook κ χ) (e : Value κ × χ) : Visit → Prop
  | .sampled k => o.Gives e k
  | .unregistered => o.IsAbsent e
  | .skipped => o.IsFailing e

/-- The account is of the entry, under its name, and tells what becomes of it and nothing else. -/
structure Accounts (o : Outlook κ χ) (e : Value κ × χ) (a : Account κ) : Prop where
  label : a.label = e.1
  names : o.Names e a.name
  becomes : ∀ v, o.Becomes e v ↔ v = a.outcome

/-- An entry has one name. -/
theorem Names.unique (h : o.Names e n) (h' : o.Names e m) : n = m := by
  obtain ⟨uri, read, composed⟩ := h
  obtain ⟨uri', read', composed'⟩ := h'
  cases read.symm.trans read'
  exact Except.ok.inj (composed.symm.trans composed')

/-- What has counts to give is registered and does not fail. -/
theorem Gives.not_isAbsent {k : Counts} (h : o.Gives e k) : ¬ o.IsAbsent e := by
  obtain ⟨n, names, pattern, ⟨answer, asked, truth⟩, -⟩ := h
  rintro ⟨m, names', pattern' | ⟨-, answer', asked', truth'⟩⟩
  · cases names.unique names'
    cases pattern.symm.trans pattern'
  · cases names.unique names'
    cases asked.symm.trans asked'
    cases truth.symm.trans truth'

theorem Gives.not_isFailing {k : Counts} (h : o.Gives e k) : ¬ o.IsFailing e := by
  obtain ⟨n, names, -, ⟨answer, asked, -⟩, counts⟩ := h
  rintro ⟨m, names', -, ⟨f, failed⟩ | ⟨-, st, other⟩⟩
  · cases names.unique names'
    cases asked.symm.trans failed
  · cases names.unique names'
    exact other _ (counts st)

/-- What fails is not answered as unregistered. -/
theorem IsFailing.not_isAbsent (h : o.IsFailing e) : ¬ o.IsAbsent e := by
  obtain ⟨n, names, pattern, failure⟩ := h
  rintro ⟨m, names', pattern' | ⟨-, answer', asked', truth'⟩⟩
  · cases names.unique names'
    cases pattern.symm.trans pattern'
  · cases names.unique names'
    rcases failure with ⟨f, failed⟩ | ⟨⟨answer, asked, truth⟩, -⟩
    · cases failed.symm.trans asked'
    · cases asked.symm.trans asked'
      cases truth.symm.trans truth'

/-- No two things become of an entry. -/
theorem Becomes.unique (h : o.Becomes e v) (h' : o.Becomes e v') : v = v' := by
  rcases v with k | _ | _ <;> rcases v' with k' | _ | _
  case sampled.sampled =>
    have same : some k = some k' := (counts?_eq_some_iff.2 h).symm.trans (counts?_eq_some_iff.2 h')
    rw [Option.some.inj same]
  case sampled.unregistered => exact absurd h' h.not_isAbsent
  case sampled.skipped => exact absurd h' h.not_isFailing
  case unregistered.sampled => exact absurd h h'.not_isAbsent
  case unregistered.unregistered => rfl
  case unregistered.skipped => exact absurd h h'.not_isAbsent
  case skipped.sampled => exact absurd h h'.not_isFailing
  case skipped.unregistered => exact absurd h' h.not_isAbsent
  case skipped.skipped => rfl

/-- The accounts have the labels of the entries. -/
theorem map_label_of_accounts {entries : List (Value κ × χ)} {accounts : List (Account κ)}
    (all : List.Forall₂ o.Accounts entries accounts) :
    accounts.map Account.label = entries.map Prod.fst := by
  induction all with
  | nil => rfl
  | cons account _ ih => rw [List.map_cons, List.map_cons, account.label, ih]

/-! ### Walks in a world that holds still -/

variable [BEq κ] {roster : Roster κ χ} {records records' : List LogRecord}

/-- Looking for statistics leaves no trace in a world that holds still. -/
theorem runFrom_still_readStatistics_snd (o : Outlook κ χ) (roster : Roster κ χ)
    (records : List LogRecord) (n : ObjectName) :
    (((o.still roster).readStatistics n).runFrom records).2 = records := by
  refine readStatistics_keeps (P := (· = records)) (fun m t h => ?_) (fun m st t h => ?_)
    (fun w t h => ?_) n _ rfl
  · rw [runFrom_still_isRegistered]
    exact h
  · rw [runFrom_still_readAttribute]
    exact h
  · rw [runFrom_still_wording]
    exact h

/-- A look for statistics that fails does so because the entry is failing. -/
theorem isFailing_of_readStatistics {f : Fault} (names : o.Names e n)
    (failed : ((o.still roster).readStatistics n).runFrom records = (.error f, records')) :
    o.IsFailing e := by
  obtain ⟨pattern, failure⟩ := readStatistics_eq_error_iff.1 failed
  refine ⟨n, names, pattern, ?_⟩
  rcases failure with failed | ⟨answer, between, st, before, asked, truth, -, failed⟩
  · rcases hasStatistics_eq_error_iff.1 failed with ⟨g, u, failed, -⟩ | ⟨failed, -⟩
    · exact .inl ⟨g, congrArg Prod.fst failed⟩
    · exact .inl ⟨f, congrArg Prod.fst failed⟩
  · refine .inr ⟨⟨answer, congrArg Prod.fst asked, truth⟩, st, fun i given => ?_⟩
    -- a count that is given as an integer is read
    have read := readCount_eq_ok_iff.2
      (show ((o.still roster).readAttribute n st.attrName).runFrom before = (.ok (.int i), before)
        by rw [runFrom_still_readAttribute, given])
    cases read.symm.trans failed

/-- A visit that succeeds gives an account of its entry, and writes its record. -/
theorem accounts_of_visit
    (visited : ((o.still roster).visit e.1 e.2).runFrom records = (.ok v, records')) :
    ∃ n, o.Accounts e ⟨e.1, n, v⟩ ∧
      records' = records ++ (Account.record? (⟨e.1, n, v⟩ : Account κ)).toList := by
  obtain ⟨n, u, named, -⟩ := bind_eq_ok_iff.1 visited
  obtain ⟨uri, read, composed⟩ := nameFor_eq_ok_iff.1 named
  obtain ⟨given, rfl⟩ := Prod.mk.inj read
  have names : o.Names e n := ⟨uri, given, composed⟩
  -- it is enough to tell one thing that becomes of the entry, and the record
  suffices told : o.Becomes e v ∧
      records' = records ++ (Account.record? (⟨e.1, n, v⟩ : Account κ)).toList by
    refine ⟨n, ⟨rfl, names, fun v' => ⟨fun h => h.unique told.1, ?_⟩⟩, told.2⟩
    rintro rfl
    exact told.1
  rw [runFrom_visit named] at visited
  have still := runFrom_still_readStatistics_snd o roster records n
  rcases looked : ((o.still roster).readStatistics n).runFrom records with ⟨f | _ | k, after⟩ <;>
    rw [looked] at visited still <;> cases still
  · have failing : o.IsFailing e := isFailing_of_readStatistics names looked
    -- the visit has ended without a fault, so the failure was isolated
    dsimp only at visited
    rw [handleFailure, runFrom_get_bind] at visited
    split at visited
    · rename_i isolated
      cases visited
      refine ⟨failing, ?_⟩
      rw [isolated.1]
      rfl
    · cases visited
  · cases visited
    refine ⟨?_, rfl⟩
    rcases readStatistics_eq_none_iff.1 looked with ⟨pattern, -⟩ | ⟨pattern, answer, asked, truth⟩
    · exact ⟨n, names, .inl pattern⟩
    · exact ⟨n, names, .inr ⟨pattern, answer, congrArg Prod.fst asked, truth⟩⟩
  · cases visited
    refine ⟨?_, (List.append_nil _).symm⟩
    obtain ⟨pattern, answer, between, asked, truth, reads⟩ := readStatistics_eq_some_iff.1 looked
    have counts := (answersPurely_still.reads_iff.1 reads).1
    rw [outlook_still] at counts
    exact ⟨n, names, pattern, ⟨answer, congrArg Prod.fst asked, truth⟩,
      fun st => counts st (Statistic.mem_all st)⟩

/-- A walk that returns gives an account of each entry, and writes their records. -/
theorem accounts_of_visitAll {entries : List (Value κ × χ)} {readings : List (Reading κ)}
    (walked : ((o.still roster).visitAll entries).runFrom records = (.ok readings, records')) :
    ∃ accounts, List.Forall₂ o.Accounts entries accounts ∧
      readings = accounts.filterMap Account.reading? ∧
      records' = records ++ accounts.filterMap Account.record? := by
  induction entries generalizing records readings with
  | nil =>
    cases walked
    exact ⟨[], .nil, rfl, (List.append_nil _).symm⟩
  | cons e rest ih =>
    obtain ⟨v, between, others, visited, walked, left⟩ := visitAll_cons_eq_ok walked
    obtain ⟨n, account, noted⟩ := accounts_of_visit visited
    obtain ⟨accounts, all, rfl, rfl⟩ := ih walked
    refine ⟨⟨e.1, n, v⟩ :: accounts, .cons account all, ?_, ?_⟩
    · rcases left with ⟨k, rfl, rfl⟩ | ⟨unsampled, rfl⟩
      · rfl
      · cases v with
        | sampled k => exact absurd rfl (unsampled k)
        | unregistered | skipped => rfl
    · rw [noted, List.append_assoc]
      cases v <;> rfl

end Outlook

namespace Collector

open Effect

variable {σ κ χ : Type} [BEq κ] {s t : σ}

/-- The walk of a scrape from a steady state gives an account of each entry. -/
theorem Steady.accounts_of_collect {c : Collector σ κ χ} {readings : List (Reading κ)}
    (steady : c.Steady s)
    (walked : (c.visitAll (c.roster s).entries).runFrom s = (.ok readings, t)) :
    ∃ accounts, List.Forall₂ (c.outlook s).Accounts (c.roster s).entries accounts ∧
      readings = accounts.filterMap Account.reading? ∧
      c.records s = accounts.filterMap Account.record? := by
  have outcome := ((steady.simulates ∅).visitAll (c.roster s).entries (t := []) .start).1
  rw [walked] at outcome
  have still : (((c.outlook s).still ∅).visitAll (c.roster s).entries).runFrom [] =
      (.ok readings, c.records s) := Prod.ext outcome.symm steady.records_eq.symm
  obtain ⟨accounts, all, sampled, noted⟩ := Outlook.accounts_of_visitAll still
  exact ⟨accounts, all, sampled, noted.trans (List.nil_append _)⟩

/-- **Every cache is accounted for exactly once.** If reads have no effects and a scrape returns,
there is one account for each entry of the roster, in its order. The samples of each family are
those of the accounts and the records of the scrape are those of the accounts, and each account has
either a sample in each family or a record. What the account tells is the one thing that becomes of
the entry: it is sampled with the counts that are registered for it, it is noted that there are no
statistics exactly if its name is a pattern or is answered as unregistered, and otherwise a failure
to read statistics is reported. -/
theorem collect_accounts (c : Collector σ κ χ) {families : List (Family κ)} (steady : c.Steady s)
    (names : ∀ key ∈ (c.roster s).keys, ∃ name, key = .text name)
    (returned : c.collect.runFrom s = (.ok families, t)) :
    ∃ accounts : List (Account κ),
      List.Forall₂ (c.outlook s).Accounts (c.roster s).entries accounts ∧
      (∃ labels : List String, accounts.map Account.label = labels.map Datum.text ∧
        labels.Nodup) ∧
      families.map Family.statistic = Statistic.all ∧
      (∀ f ∈ families, f.samples = accounts.filterMap (Account.sample? f.statistic)) ∧
      c.records s = accounts.filterMap Account.record? ∧
      ∀ f ∈ families, (c.records s).length + f.labels.length = (c.roster s).size := by
  obtain ⟨readings, walked, rfl⟩ := collect_eq_ok_iff.1 returned
  obtain ⟨accounts, all, rfl, noted⟩ := steady.accounts_of_collect walked
  have samples : ∀ f ∈ Family.allOf (accounts.filterMap Account.reading?),
      f.samples = accounts.filterMap (Account.sample? f.statistic) := by
    intro f hf
    obtain ⟨st, -, rfl⟩ := List.mem_map.1 hf
    exact Account.samples_ofReadings accounts st
  refine ⟨accounts, all, ?_, rfl, samples, noted, fun f hf => ?_⟩
  · obtain ⟨labels, keys, nodup⟩ := exists_texts_of_keys names
    exact ⟨labels, (Outlook.map_label_of_accounts all).trans keys, nodup⟩
  · rw [Family.labels, List.length_map, samples f hf, noted, Account.length_records_add_samples,
      ← all.length_eq]
    rfl

/-- The names of the statistics of the caches `sessions` and `orders` of a manager with the address
`m`. -/
def countsName : ObjectName :=
  .ofAdmissible (ObjectName.firstFault_eq_none_iff.1
    (show ObjectName.firstFault "javax.cache"
      [("type", "CacheStatistics"), ("CacheManager", "m"), ("Cache", "sessions")] = none by decide))

@[inherit_doc countsName]
def brokenName : ObjectName :=
  .ofAdmissible (ObjectName.firstFault_eq_none_iff.1
    (show ObjectName.firstFault "javax.cache"
      [("type", "CacheStatistics"), ("CacheManager", "m"), ("Cache", "orders")] = none by decide))

open Session in
/-- Four caches: one whose statistics raise an error, one with counts, one without statistics, and
one whose name is a pattern. Failures are isolated. -/
def mixedCaches : World :=
  { World.start { Settings.standard with isolateFailures := true } default with
    beans := [⟨"counts", .stored, .ofList (Statistic.all.map fun st =>
        (st.attrName, .value (.int 7)))⟩,
      ⟨"broken", .object, .ofList [("CacheHits", .script (.raise .runtime "boom"))]⟩]
    caches := ["orders", "sessions", "idle", "s*"].map fun name => ⟨name, .text name, .text "m"⟩
    collectors := [⟨.main, 0, .ofList
      [(.text "orders", 0), (.text "sessions", 1), (.text "idle", 2), (.text "s*", 3)]⟩]
    registries := .ofList [("main", .ofList [(countsName, 0), (brokenName, 1)])] }

/-- Three of four caches leave a record each, in order, and one its samples. -/
theorem collect_accounts_mixedCaches :
    ∃ families t, (Session.collector 0).collect.runFrom mixedCaches = (.ok families, t) ∧
      ((Session.collector 0).records mixedCaches).map LogRecord.level =
        [.warning, .debug, .debug] ∧
      ∀ f ∈ families, f.labels.length = 1 := by
  obtain ⟨families, t, returned⟩ := exists_of_isOk
    (r := (Session.collector 0).collect.runFrom mixedCaches) (by decide +kernel)
  have steady : (Session.collector 0).Steady mixedCaches :=
    Session.steady_of_isQuiet (by decide +kernel) 0
  have names : ∀ key ∈ ((Session.collector 0).roster mixedCaches).keys,
      ∃ name, key = .text name := exists_text_of_all_keys (by decide +kernel)
  have levels : ((Session.collector 0).records mixedCaches).map LogRecord.level =
      [.warning, .debug, .debug] := by decide +kernel
  obtain ⟨-, -, -, -, -, -, counts⟩ := collect_accounts (Session.collector 0) steady names returned
  refine ⟨families, t, returned, levels, fun f hf => ?_⟩
  have size : ((Session.collector 0).roster mixedCaches).size = 4 := by decide
  have three : ((Session.collector 0).records mixedCaches).length = 3 := by
    rw [← List.length_map LogRecord.level, levels]
    rfl
  have total := counts f hf
  omega

end Collector

end CacheTelemetry
