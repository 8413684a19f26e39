import CacheTelemetry.Proofs.Collector.Outlook
import Mathlib.Data.List.Basic

/-!
# Entries that block a scrape

An entry *blocks* a scrape if it is malformed, if it is failing and failures are not isolated, or if
it leaks: with isolation the malformed and the leaking entries block, without it the malformed and
the failing ones (`blocks_isolating_true`, `blocks_isolating_false`). No entry is both malformed and
failing.

A failing entry that does not leak is *isolable*. The readings that there are of entries,
`Outlook.given`, do not depend on isolation, and **leaving out isolable entries leaves out no
readings** (`given_filter`).
-/

namespace CacheTelemetry

namespace Outlook

variable {κ χ : Type}

/-- The addresses of the entries are read, they and the labels can be written, and the registry
fails with errors only. -/
structure IsOrderly (o : Outlook κ χ) (entries : List (Value κ × χ)) : Prop where
  uri : ∀ e ∈ entries, ∃ uri, o.uri e.2 = .ok uri ∧ uri.isWritable = true
  label : ∀ e ∈ entries, e.1.isWritable = true
  isRegistered : ∀ n f, o.isRegistered n = .error f → f.isError = true
  attr : ∀ n st f, o.attr n st = .error f → f.isError = true

/-- An entry that ends a scrape. -/
def Blocks (o : Outlook κ χ) (e : Value κ × χ) : Prop :=
  o.IsMalformed e ∨ o.settings.isolateFailures = false ∧ o.IsFailing e ∨ ∃ f, o.Leaks e f

/-- An entry that fails without leaking. -/
def IsIsolable (o : Outlook κ χ) (e : Value κ × χ) : Prop := o.IsFailing e ∧ ∀ f, ¬ o.Leaks e f

/-- The outlook with failures isolated or not. -/
def isolating (isolate : Bool) (o : Outlook κ χ) : Outlook κ χ :=
  { o with settings := { o.settings with isolateFailures := isolate } }

/-- The readings that there are of entries. -/
def given (o : Outlook κ χ) (entries : List (Value κ × χ)) : List (Reading κ) :=
  entries.filterMap fun e => (o.counts? e).map (Reading.mk e.1)

variable {o : Outlook κ χ} {entries rest : List (Value κ × χ)} {e : Value κ × χ}

/-- Orderly entries are orderly in part. -/
theorem IsOrderly.mono (h : o.IsOrderly entries) {part : List (Value κ × χ)}
    (subset : part ⊆ entries) : o.IsOrderly part :=
  ⟨fun e he => h.uri e (subset he), fun e he => h.label e (subset he), h.isRegistered, h.attr⟩

/-- Isolation has no bearing on order. -/
theorem IsOrderly.isolating (h : o.IsOrderly entries) (isolate : Bool) :
    (o.isolating isolate).IsOrderly entries :=
  ⟨h.uri, h.label, h.isRegistered, h.attr⟩

/-- The address of an orderly entry, which can be written like its label. -/
theorem IsOrderly.exists_uri (h : o.IsOrderly entries) (he : e ∈ entries) :
    ∃ uri, o.uri e.2 = .ok uri ∧ uri.isWritable = true ∧ e.1.isWritable = true := by
  obtain ⟨uri, read, written⟩ := h.uri e he
  exact ⟨uri, read, written, h.label e he⟩

/-! ### Blocking -/

/-- What a failure is about has nothing to do with isolation. -/
theorem leaks_isolating {isolate : Bool} {f : Fault} :
    (o.isolating isolate).Leaks e f ↔ o.Leaks e f := by
  refine exists₂_congr fun n w => and_congr_right fun _ => and_congr_right fun _ =>
    and_congr_left fun _ => ⟨?_, ?_⟩
  · rintro (failed | ⟨registers, comes, failed⟩ | ⟨registers, comes, given, integer⟩)
    · exact .query failed
    · exact .read registers comes failed
    · exact .count registers comes given integer
  · rintro (failed | ⟨registers, comes, failed⟩ | ⟨registers, comes, given, integer⟩)
    · exact .query failed
    · exact .read registers comes failed
    · exact .count registers comes given integer

theorem blocks_isolating (isolate : Bool) : (o.isolating isolate).Blocks e ↔
    o.IsMalformed e ∨ isolate = false ∧ o.IsFailing e ∨ ∃ f, o.Leaks e f :=
  or_congr_right (or_congr_right (exists_congr fun _ => leaks_isolating))

/-- Malformed and leaking entries block where failures are isolated, and no others. -/
theorem blocks_isolating_true :
    (o.isolating true).Blocks e ↔ o.IsMalformed e ∨ ∃ f, o.Leaks e f := by
  rw [blocks_isolating]
  simp

/-- Malformed and failing entries block where failures are not isolated. -/
theorem blocks_isolating_false :
    (o.isolating false).Blocks e ↔ o.IsMalformed e ∨ o.IsFailing e := by
  have leaks : (∃ f, o.Leaks e f) → o.IsFailing e := fun ⟨_, leaks⟩ => leaks.isFailing
  rw [blocks_isolating, eq_self_iff_true, true_and]
  exact or_congr_right (or_iff_left_of_imp leaks)

/-- A malformed entry is not failing as well. -/
theorem IsMalformed.not_isFailing (h : o.IsMalformed e) : ¬ o.IsFailing e := by
  rintro ⟨n, ⟨uri, hu, hn⟩, -⟩
  obtain ⟨u, hu'⟩ := (isMalformed_iff hu (Settings.nameOf_eq_ok_iff.1 hn).1).1 h
  cases hn.symm.trans hu'

/-- A failing entry has no counts to give. -/
theorem IsFailing.counts?_eq_none (h : o.IsFailing e) : o.counts? e = none := by
  refine Option.eq_none_iff_forall_ne_some.2 fun k hk => ?_
  obtain ⟨n, ⟨uri, hu, hn⟩, -, ⟨answer, ha, -⟩, counts⟩ := counts?_eq_some_iff.1 hk
  obtain ⟨n', ⟨uri', hu', hn'⟩, -, failure⟩ := h
  cases hu.symm.trans hu'
  cases hn.symm.trans hn'
  rcases failure with ⟨f, hf⟩ | ⟨-, st, hst⟩
  · cases ha.symm.trans hf
  · exact hst _ (counts st)

/-- Of entries that do not block with isolation, those that are not isolable do not block without it
either. -/
theorem not_blocks_of_mem_filter {keep : Value κ × χ → Bool}
    (hkeep : ∀ e ∈ entries, keep e = true ↔ ¬ o.IsIsolable e)
    (h : ∀ e ∈ entries, ¬ (o.isolating true).Blocks e) :
    ∀ e ∈ entries.filter keep, ¬ (o.isolating false).Blocks e := by
  intro e he
  obtain ⟨mem, hk⟩ := List.mem_filter.1 he
  have sound := h e mem
  rw [blocks_isolating_true] at sound
  rw [blocks_isolating_false]
  rintro (malformed | failing)
  · exact sound (.inl malformed)
  · exact (hkeep e mem).1 hk ⟨failing, fun f leaks => sound (.inr ⟨f, leaks⟩)⟩

/-! ### Readings -/

theorem given_cons_of_some {k : Counts} (h : o.counts? e = some k) :
    o.given (e :: rest) = ⟨e.1, k⟩ :: o.given rest := by
  rw [given, List.filterMap_cons, h]
  rfl

theorem given_cons_of_none (h : o.counts? e = none) : o.given (e :: rest) = o.given rest := by
  rw [given, List.filterMap_cons, h]
  rfl

/-- Leaving out isolable entries leaves out no readings. -/
theorem given_filter {keep : Value κ × χ → Bool}
    (hkeep : ∀ e ∈ entries, keep e = true ↔ ¬ o.IsIsolable e) :
    o.given (entries.filter keep) = o.given entries := by
  rw [given, given, List.filterMap_filter]
  refine List.filterMap_congr fun e he => ?_
  split
  · rfl
  · rename_i dropped
    have isolable : o.IsIsolable e := by
      by_contra kept
      exact dropped ((hkeep e he).2 kept)
    rw [isolable.1.counts?_eq_none]
    rfl

end Outlook

end CacheTelemetry
