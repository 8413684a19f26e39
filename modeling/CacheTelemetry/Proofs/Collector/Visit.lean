import CacheTelemetry.Proofs.Effect
import CacheTelemetry.Proofs.ObjectName.Statistics
import CacheTelemetry.Collector.Scrape

/-!
# What a visit consists of

Which answers of foreign code lie behind an outcome of a scrape's parts, and in which states they
were given. Nothing is assumed of the foreign code here: it may do to the state whatever it likes.

`Collector.Reads c n get sts s t` says that the attributes of the statistics `sts` are read under
the name `n` from the state `s` to the state `t`, one after the other, and are the integers `get`.
A cache is sampled exactly if its name is composed, is no pattern and is answered as registered, and
the six attributes are then read in this way (`visit_eq_sampled_iff`).
-/

namespace CacheTelemetry

/-- The counts that a list gives, in order. -/
def Counts.ofList (is : List Int) : Counts where
  hits := is.getD 0 0
  misses := is.getD 1 0
  gets := is.getD 2 0
  puts := is.getD 3 0
  evictions := is.getD 4 0
  removals := is.getD 5 0

namespace Collector

open Effect

variable {σ κ χ : Type} [BEq κ] {c : Collector σ κ χ} {s t : σ}

/-! ### The name -/

/-- A name is composed of the address, as it is read, with the settings that there are then. -/
theorem nameFor_eq (c : Collector σ κ χ) (label : Value κ) (cache : χ) :
    c.nameFor label cache = c.managerUri cache >>= fun uri => get >>= fun s =>
      Effect.ofExcept ((c.settings s).nameOf uri label) := rfl

/-- Composing a name once the address is read. -/
theorem runFrom_nameFor {label : Value κ} {cache : χ} {uri : Value κ}
    (h : (c.managerUri cache).runFrom s = (.ok uri, t)) :
    (c.nameFor label cache).runFrom s = ((c.settings t).nameOf uri label, t) := by
  rw [nameFor_eq, runFrom_bind_of_ok h, runFrom_get_bind, runFrom_ofExcept]

/-- When a name is composed. -/
theorem nameFor_eq_ok_iff {label : Value κ} {cache : χ} {n : ObjectName} :
    (c.nameFor label cache).runFrom s = (.ok n, t) ↔
      ∃ uri, (c.managerUri cache).runFrom s = (.ok uri, t) ∧
        (c.settings t).nameOf uri label = .ok n := by
  rcases h : (c.managerUri cache).runFrom s with ⟨f | uri, u⟩
  · simp [nameFor_eq, runFrom_bind_of_error h]
  · rw [runFrom_nameFor h]
    constructor
    · intro e
      obtain ⟨hn, rfl⟩ := Prod.mk.inj e
      exact ⟨uri, rfl, hn⟩
    · rintro ⟨_, ⟨⟩, hn⟩
      rw [hn]

/-! ### The registry's answers -/

/-- The registry's answer counts by its truth value. -/
theorem hasStatistics_eq_ok_iff {n : ObjectName} {b : Bool} :
    (c.hasStatistics n).runFrom s = (.ok b, t) ↔
      ∃ answer, (c.isRegistered n).runFrom s = (.ok answer, t) ∧ answer.truth = b := by
  rw [hasStatistics, bind_eq_ok_iff]
  simp only [wrapErrors_eq_ok_iff, runFrom_pure, Prod.mk.injEq, Except.ok.injEq]
  constructor
  · rintro ⟨answer, u, h, rfl, rfl⟩
    exact ⟨answer, h, rfl⟩
  · rintro ⟨answer, h, rfl⟩
    exact ⟨answer, t, h, rfl, rfl⟩

/-- A count is read exactly where the registry gives an integer. -/
theorem readCount_eq_ok_iff {n : ObjectName} {st : Statistic} {i : Int} :
    (c.readCount n st).runFrom s = (.ok i, t) ↔
      (c.readAttribute n st.attrName).runFrom s = (.ok (.int i), t) := by
  rw [readCount, bind_eq_ok_iff]
  simp only [wrapErrors_eq_ok_iff]
  constructor
  · rintro ⟨v, u, h, hv⟩
    cases v with
    | int =>
      cases hv
      exact h
    | _ =>
      obtain ⟨_, _, -, raised⟩ := bind_eq_ok_iff.1 hv
      cases raised
  · exact fun h => ⟨.int i, t, h, rfl⟩

/-- Attributes read one after the other under one name: the integers `get`, from `s` to `t`. -/
inductive Reads (c : Collector σ κ χ) (n : ObjectName) (get : Statistic → Int) :
    List Statistic → σ → σ → Prop where
  | nil {s : σ} : Reads c n get [] s s
  | cons {st : Statistic} {rest : List Statistic} {s t u : σ}
    (read : (c.readAttribute n st.attrName).runFrom s = (.ok (.int (get st)), t))
    (others : Reads c n get rest t u) : Reads c n get (st :: rest) s u

/-- All counts are read exactly if the six attributes are read one after the other. -/
theorem readAll_eq_ok_iff {n : ObjectName} {k : Counts} :
    (Counts.readAll (c.readCount n)).runFrom s = (.ok k, t) ↔
      c.Reads n k.get Statistic.all s t := by
  simp only [Counts.readAll, bind_eq_ok_iff, readCount_eq_ok_iff, runFrom_pure, Prod.mk.injEq,
    Except.ok.injEq]
  constructor
  · rintro ⟨hits, s₁, h₁, misses, s₂, h₂, gets, s₃, h₃, puts, s₄, h₄, evictions, s₅, h₅, removals,
      s₆, h₆, rfl, rfl⟩
    exact .cons h₁ (.cons h₂ (.cons h₃ (.cons h₄ (.cons h₅ (.cons h₆ .nil)))))
  · rintro (_ | ⟨h₁, _ | ⟨h₂, _ | ⟨h₃, _ | ⟨h₄, _ | ⟨h₅, _ | ⟨h₆, ⟨⟩⟩⟩⟩⟩⟩⟩)
    exact ⟨_, _, h₁, _, _, h₂, _, _, h₃, _, _, h₄, _, _, h₅, _, _, h₆, rfl, rfl⟩

/-- All counts are read if in all states of a kind each of them is, and the states stay of that
kind. -/
theorem exists_readAll {P : σ → Prop} {n : ObjectName}
    (read : ∀ st t, P t → ∃ i u, P u ∧ (c.readCount n st).runFrom t = (.ok i, u)) (h : P s) :
    ∃ k t, (Counts.readAll (c.readCount n)).runFrom s = (.ok k, t) := by
  obtain ⟨hits, s₁, h₁, r₁⟩ := read .hits s h
  obtain ⟨misses, s₂, h₂, r₂⟩ := read .misses s₁ h₁
  obtain ⟨gets, s₃, h₃, r₃⟩ := read .gets s₂ h₂
  obtain ⟨puts, s₄, h₄, r₄⟩ := read .puts s₃ h₃
  obtain ⟨evictions, s₅, h₅, r₅⟩ := read .evictions s₄ h₄
  obtain ⟨removals, s₆, -, r₆⟩ := read .removals s₅ h₅
  refine ⟨⟨hits, misses, gets, puts, evictions, removals⟩, s₆, ?_⟩
  rw [Counts.readAll, runFrom_bind_of_ok r₁, runFrom_bind_of_ok r₂, runFrom_bind_of_ok r₃,
    runFrom_bind_of_ok r₄, runFrom_bind_of_ok r₅, runFrom_bind_of_ok r₆]
  rfl

/-- Statistics are found exactly if the name is no pattern, is answered as registered, and all
counts are read. -/
theorem readStatistics_eq_some_iff {n : ObjectName} {k : Counts} :
    (c.readStatistics n).runFrom s = (.ok (some k), t) ↔
      n.isPattern = false ∧ ∃ answer s', (c.isRegistered n).runFrom s = (.ok answer, s') ∧
        answer.truth = true ∧ c.Reads n k.get Statistic.all s' t := by
  unfold readStatistics
  split
  · rename_i h
    simp [h]
  · rename_i h
    simp only [bind_eq_ok_iff, hasStatistics_eq_ok_iff, h, true_and]
    constructor
    · rintro ⟨b, s', ⟨answer, ha, rfl⟩, hk⟩
      split at hk
      · rename_i truth
        obtain ⟨k', u, hk', e⟩ := bind_eq_ok_iff.1 hk
        cases e
        exact ⟨answer, s', ha, truth, readAll_eq_ok_iff.1 hk'⟩
      · cases hk
    · rintro ⟨answer, s', ha, truth, hk⟩
      refine ⟨true, s', ⟨answer, ha, truth⟩, ?_⟩
      exact bind_eq_ok_iff.2 ⟨k, t, readAll_eq_ok_iff.2 hk, rfl⟩

/-- No statistics are found exactly if the name is a pattern or is answered as not registered. -/
theorem readStatistics_eq_none_iff {n : ObjectName} :
    (c.readStatistics n).runFrom s = (.ok none, t) ↔
      n.isPattern = true ∧ t = s ∨ n.isPattern = false ∧
        ∃ answer, (c.isRegistered n).runFrom s = (.ok answer, t) ∧ answer.truth = false := by
  unfold readStatistics
  split
  · rename_i h
    simp only [h, runFrom_pure, Prod.mk.injEq, true_and, Bool.true_eq_false, false_and, or_false]
    exact eq_comm
  · rename_i h
    simp only [bind_eq_ok_iff, hasStatistics_eq_ok_iff, h, Bool.false_eq_true, false_and, true_and,
      false_or]
    constructor
    · rintro ⟨b, s', ⟨answer, ha, rfl⟩, hk⟩
      split at hk
      · obtain ⟨k, u, -, e⟩ := bind_eq_ok_iff.1 hk
        cases e
      · rename_i truth
        cases hk
        exact ⟨answer, ha, by simpa using truth⟩
    · rintro ⟨answer, ha, truth⟩
      exact ⟨false, t, ⟨answer, ha, truth⟩, rfl⟩

/-! ### Failures -/

/-- The question for a name fails exactly if the registry does. -/
theorem hasStatistics_eq_error_iff {n : ObjectName} {f : Fault} :
    (c.hasStatistics n).runFrom s = (.error f, t) ↔
      (∃ e u, (c.isRegistered n).runFrom s = (.error e, u) ∧ e.isError = true ∧
          (c.queryFault n e).EndsAs u f t) ∨
        (c.isRegistered n).runFrom s = (.error f, t) ∧ f.isError = false := by
  rw [hasStatistics, bind_pure_eq_error_iff, wrapErrors_eq_error_iff]

/-- A count cannot be read if the registry fails or gives no integer. -/
theorem readCount_eq_error_iff {n : ObjectName} {st : Statistic} {f : Fault} :
    (c.readCount n st).runFrom s = (.error f, t) ↔
      ((∃ e u, (c.readAttribute n st.attrName).runFrom s = (.error e, u) ∧ e.isError = true ∧
          (c.readFault n st.attrName e).EndsAs u f t) ∨
        (c.readAttribute n st.attrName).runFrom s = (.error f, t) ∧ f.isError = false) ∨
      ∃ v u, (c.readAttribute n st.attrName).runFrom s = (.ok v, u) ∧ (∀ i, v ≠ .int i) ∧
        (c.countFault n st.attrName v).EndsAs u f t := by
  rw [readCount, bind_eq_error_iff, wrapErrors_eq_error_iff]
  refine or_congr_right (exists₂_congr fun v u => ?_)
  rw [wrapErrors_eq_ok_iff]
  refine and_congr_right fun _ => ?_
  rw [← bind_throw_eq_error_iff (α := Int)]
  cases v <;> simp

/-- What the fault of a question for a name ends as. -/
theorem endsAs_queryFault_iff {n : ObjectName} {e f : Fault} :
    (c.queryFault n e).EndsAs s f t ↔
      (∃ said, (c.wording.say (.error e)).runFrom s = (.ok said, t) ∧ f = .queryFailed n said e) ∨
        (c.wording.say (.error e)).runFrom s = (.error f, t) :=
  endsAs_bind_pure_iff

/-- What the fault of a question for an attribute ends as. -/
theorem endsAs_readFault_iff {n : ObjectName} {attr : String} {e f : Fault} :
    (c.readFault n attr e).EndsAs s f t ↔
      (∃ said, (c.wording.say (.error e)).runFrom s = (.ok said, t) ∧
          f = .readFailed n attr said e) ∨
        (c.wording.say (.error e)).runFrom s = (.error f, t) :=
  endsAs_bind_pure_iff

/-- What the fault of a value that is no count ends as. -/
theorem endsAs_countFault_iff {n : ObjectName} {attr : String} {v : Value κ} {f : Fault} :
    (c.countFault n attr v).EndsAs s f t ↔
      (∃ shown, (c.wording.say (.value v)).runFrom s = (.ok shown, t) ∧
          f = .notCount n attr shown) ∨
        (c.wording.say (.value v)).runFrom s = (.error f, t) :=
  endsAs_bind_pure_iff

/-- The six counts are read as a list is. -/
theorem readAll_eq_mapM (read : Statistic → Effect σ Int) :
    Counts.readAll read = Statistic.all.mapM read >>= fun is => pure (Counts.ofList is) := by
  simp only [Counts.readAll, Statistic.all, List.mapM_cons, List.mapM_nil, bind_assoc, pure_bind]
  rfl

/-- From the state `s` on the counts under a name are read, and in the state `u` it is the turn of
`st`: all counts before it have been read. -/
def ComesTo (c : Collector σ κ χ) (n : ObjectName) (st : Statistic) (s u : σ) : Prop :=
  ∃ before after is, Statistic.all = before ++ st :: after ∧
    (before.mapM (c.readCount n)).runFrom s = (.ok is, u)

/-- The counts are not read exactly if one of them is not, to which the reading comes. -/
theorem readAll_eq_error_iff {n : ObjectName} {f : Fault} :
    (Counts.readAll (c.readCount n)).runFrom s = (.error f, t) ↔
      ∃ st u, c.ComesTo n st s u ∧ (c.readCount n st).runFrom u = (.error f, t) := by
  rw [readAll_eq_mapM, bind_pure_eq_error_iff, mapM_eq_error_iff]
  constructor
  · rintro ⟨before, st, after, is, u, all, read, failed⟩
    exact ⟨st, u, ⟨before, after, is, all, read⟩, failed⟩
  · rintro ⟨st, u, ⟨before, after, is, all, read⟩, failed⟩
    exact ⟨before, st, after, is, u, all, read, failed⟩

/-- The look for statistics fails exactly if one of its questions does. -/
theorem readStatistics_eq_error_iff {n : ObjectName} {f : Fault} :
    (c.readStatistics n).runFrom s = (.error f, t) ↔ n.isPattern = false ∧
      ((c.hasStatistics n).runFrom s = (.error f, t) ∨
        ∃ answer v st u, (c.isRegistered n).runFrom s = (.ok answer, v) ∧ answer.truth = true ∧
          c.ComesTo n st v u ∧ (c.readCount n st).runFrom u = (.error f, t)) := by
  unfold readStatistics
  split
  · rename_i pattern
    simp [pattern]
  · rename_i pattern
    simp only [bind_eq_error_iff, hasStatistics_eq_ok_iff, pattern, true_and]
    refine or_congr_right ⟨?_, ?_⟩
    · rintro ⟨b, v, ⟨answer, asked, rfl⟩, failed⟩
      split at failed
      · rename_i truth
        obtain ⟨st, u, comes, failed⟩ := readAll_eq_error_iff.1 (bind_pure_eq_error_iff.1 failed)
        exact ⟨answer, v, st, u, asked, truth, comes, failed⟩
      · cases failed
    · rintro ⟨answer, v, st, u, asked, truth, comes, failed⟩
      refine ⟨true, v, ⟨answer, asked, truth⟩, ?_⟩
      exact bind_pure_eq_error_iff.2 (readAll_eq_error_iff.2 ⟨st, u, comes, failed⟩)

/-! ### The outcome -/

/-- A failure is handled by skipping the cache, or not at all. -/
theorem handleFailure_eq_ok {label : Value κ} {n : ObjectName} {f : Fault} {v : Visit}
    (h : (c.handleFailure label n f).runFrom s = (.ok v, t)) : v = .skipped := by
  rw [handleFailure, runFrom_get_bind] at h
  split at h
  · obtain ⟨_, _, -, e⟩ := bind_eq_ok_iff.1 h
    cases e
    rfl
  · cases h

/-- A visit of a cache for which statistics are named ends as the look for them ends; where there
are none, a record is written. -/
theorem runFrom_visit {label : Value κ} {cache : χ} {n : ObjectName}
    (h : (c.nameFor label cache).runFrom s = (.ok n, t)) :
    (c.visit label cache).runFrom s =
      match (c.readStatistics n).runFrom t with
      | (.ok (some k), u) => (.ok (.sampled k), u)
      | (.ok none, u) => (.ok .unregistered, c.log (.detail .collector
          ("No statistics registered for cache " ++ label.quoted ++ " (" ++ n.canonical ++ ")")) u)
      | (.error f, u) => (c.handleFailure label n f).runFrom u := by
  rw [visit, runFrom_bind_of_ok h, runFrom_bind, runFrom_tryCatch, runFrom_bind]
  rcases hr : (c.readStatistics n).runFrom t with ⟨f | _ | k, u⟩
  · dsimp only
    rcases hf : (c.handleFailure label n f).runFrom u with ⟨f' | v, w⟩
    · rfl
    · obtain rfl := handleFailure_eq_ok hf
      rfl
  · rfl
  · rfl

/-- A cache is sampled exactly if its name is composed and statistics are found under it. -/
theorem visit_eq_sampled_iff {label : Value κ} {cache : χ} {k : Counts} :
    (c.visit label cache).runFrom s = (.ok (.sampled k), t) ↔
      ∃ n s', (c.nameFor label cache).runFrom s = (.ok n, s') ∧
        (c.readStatistics n).runFrom s' = (.ok (some k), t) := by
  constructor
  · intro h
    obtain ⟨n, s', hn, -⟩ := bind_eq_ok_iff.1 h
    refine ⟨n, s', hn, ?_⟩
    rw [runFrom_visit hn] at h
    rcases hr : (c.readStatistics n).runFrom s' with ⟨f | _ | k', u⟩ <;> rw [hr] at h
    · cases handleFailure_eq_ok h
    · cases h
    · cases h
      rfl
  · rintro ⟨n, s', hn, hr⟩
    rw [runFrom_visit hn, hr]

/-- Two lists of caches are walked over one after the other. -/
theorem visitAll_append (c : Collector σ κ χ) (before after : List (Value κ × χ)) :
    c.visitAll (before ++ after) = do
      let first ← c.visitAll before
      let second ← c.visitAll after
      return first ++ second := by
  induction before with
  | nil => simp [visitAll]
  | cons e rest ih =>
    rw [List.cons_append, visitAll, visitAll, ih]
    simp only [bind_assoc, pure_bind]
    refine bind_congr fun outcome => bind_congr fun readings => ?_
    cases outcome <;> simp

/-- The readings of a list of caches are those of the first cache, if it is sampled, and those of
the others. -/
theorem visitAll_cons_eq_ok {e : Value κ × χ} {rest : List (Value κ × χ)}
    {readings : List (Reading κ)}
    (h : (c.visitAll (e :: rest)).runFrom s = (.ok readings, t)) :
    ∃ outcome s' others, (c.visit e.1 e.2).runFrom s = (.ok outcome, s') ∧
      (c.visitAll rest).runFrom s' = (.ok others, t) ∧
      ((∃ k, outcome = .sampled k ∧ readings = ⟨e.1, k⟩ :: others) ∨
        (∀ k, outcome ≠ .sampled k) ∧ readings = others) := by
  obtain ⟨outcome, s', hv, h⟩ := bind_eq_ok_iff.1 h
  obtain ⟨others, u, hrest, h⟩ := bind_eq_ok_iff.1 h
  refine ⟨outcome, s', others, hv, ?_⟩
  cases outcome with
  | sampled k =>
    cases h
    exact ⟨hrest, .inl ⟨k, rfl, rfl⟩⟩
  | unregistered | skipped =>
    cases h
    exact ⟨hrest, .inr ⟨by simp, rfl⟩⟩

/-- A scrape is the walk over the caches that the roster holds at its beginning. -/
theorem runFrom_collect (c : Collector σ κ χ) (s : σ) :
    c.collect.runFrom s =
      (((c.visitAll (c.roster s).entries).runFrom s).1.map Family.allOf,
        ((c.visitAll (c.roster s).entries).runFrom s).2) := by
  rw [collect, runFrom_bind, scrape, runFrom_get_bind]
  rcases (c.visitAll (c.roster s).entries).runFrom s with ⟨f | readings, t⟩ <;> rfl

/-- A scrape returns the families of the readings of the caches that the roster holds at its
beginning. -/
theorem collect_eq_ok_iff {families : List (Family κ)} :
    c.collect.runFrom s = (.ok families, t) ↔
      ∃ readings, (c.visitAll (c.roster s).entries).runFrom s = (.ok readings, t) ∧
        families = Family.allOf readings := by
  rw [runFrom_collect]
  rcases (c.visitAll (c.roster s).entries).runFrom s with ⟨f | readings, u⟩
  · simp [Except.map]
  · simp only [Except.map, Prod.mk.injEq, Except.ok.injEq]
    constructor
    · rintro ⟨rfl, rfl⟩
      exact ⟨readings, ⟨rfl, rfl⟩, rfl⟩
    · rintro ⟨_, ⟨rfl, rfl⟩, rfl⟩
      exact ⟨rfl, rfl⟩

end Collector

end CacheTelemetry
