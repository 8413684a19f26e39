import CacheTelemetry.Proofs.Collector.Labels
import CacheTelemetry.Proofs.Collector.Operations

/-!
# Nameless entries

A cache without a name is to go by the empty text, so that all keys of a roster are texts. Whether a
cache has a name is found out by one read, though, and its key by another. A cache whose name is
gone in between is entered under null. Such an entry is out of reach: removing null removes the
empty text, which may stand in the roster as well.

**All keys of a roster are texts exactly if no entry came in nameless since the caches were last
removed** (`StartsEmpty.keys_texts_iff`). Then every label of a scrape can be removed under its own
name, and no cache stands beside one of the same name.
-/

namespace CacheTelemetry

namespace Collector

open Effect

variable {σ κ χ : Type} [BEq κ] {c : Collector σ κ χ} {valid : σ → Prop} {s t : σ}

/-- All keys of the roster are texts. -/
def KeysAreTexts (c : Collector σ κ χ) (s : σ) : Prop :=
  ∀ key ∈ (c.roster s).keys, ∃ name, key = .text name

/-- A label names an entry that is removed under it: its cache is given back, and the label is no
key any more. -/
def IsRemovable (c : Collector σ κ χ) (s : σ) (label : Value κ) : Prop :=
  ∃ name cache t, label = .ofName name ∧ (label, cache) ∈ (c.roster s).entries ∧
    (c.remove name).runFrom s = (.ok (some cache), t) ∧ (c.roster t).contains label = false

/-- Names are texts if none of them is null. -/
theorem IsNamed.keysAreTexts_iff (named : c.IsNamed s) :
    c.KeysAreTexts s ↔ (c.roster s).contains .null = false := by
  rw [OrderedMap.contains_eq_any_keys, List.any_eq_false]
  constructor
  · intro texts key mem null
    obtain ⟨name, rfl⟩ := texts key mem
    cases null
  · intro absent key mem
    obtain ⟨_ | name, rfl⟩ := named key mem
    · exact absurd rfl (absent _ mem)
    · exact ⟨name, rfl⟩

/-- A key that is a text is removed under its name. -/
theorem StoresRoster.isRemovable (stores : c.StoresRoster valid) (h : valid s) {name : String}
    (mem : .text name ∈ (c.roster s).keys) : c.IsRemovable s (.text name) := by
  obtain ⟨⟨key, cache⟩, entry, rfl⟩ := List.mem_map.1 mem
  obtain ⟨t, run, -, roster⟩ := stores.runFrom_remove h (some name)
  have found : (c.roster s).get? (.text name) = some cache :=
    OrderedMap.get?_of_mem (beq_self_eq_true name) entry
  refine ⟨some name, cache, t, rfl, entry, ?_, ?_⟩
  · rw [run, Option.getD_some, found]
  · rw [roster]
    exact OrderedMap.contains_erase_self _ _

/-- The labels of a scrape are keys of the roster as it was at the beginning. -/
theorem mem_keys_of_mem_labels {families : List (Family κ)}
    (returned : c.collect.runFrom s = (.ok families, t)) {f : Family κ} (hf : f ∈ families)
    {label : Value κ} (mem : label ∈ f.labels) : label ∈ (c.roster s).keys := by
  obtain ⟨readings, hreadings, rfl⟩ := collect_eq_ok_iff.1 returned
  obtain ⟨st, -, rfl⟩ := List.mem_map.1 hf
  rw [Family.labels_ofReadings] at mem
  exact (labels_sublist hreadings).subset mem

variable [DecidableEq χ] {ops : List (Operation σ κ χ)}

/-- **The keys of a roster are texts as long as no entry comes in nameless.** After a run of
operations from an empty roster all keys are texts, every label of a scrape can be removed as it is,
and null and the empty text do not stand side by side, exactly if no cache has been added whose name
was there at the first read and gone at the second, or all caches have been removed since. -/
theorem StartsEmpty.keys_texts_iff (starts : c.StartsEmpty valid ops s) :
    (c.KeysAreTexts (c.after ops s) ∧
      (∀ families t, c.collect.runFrom (c.after ops s) = (.ok families, t) →
        ∀ f ∈ families, ∀ label ∈ f.labels, c.IsRemovable (c.after ops s) label) ∧
      ¬ ((c.roster (c.after ops s)).contains .null = true ∧
        (c.roster (c.after ops s)).contains (.text "") = true)) ↔
      ¬ c.LeavesNameless ops s := by
  obtain ⟨h, named, nameless⟩ := starts.contains_null_after
  rw [← nameless, Bool.not_eq_true, ← named.keysAreTexts_iff]
  constructor
  · rintro ⟨texts, -, -⟩
    exact texts
  · intro texts
    refine ⟨texts, ?_, ?_⟩
    · intro families t returned f hf label mem
      have key : label ∈ (c.roster (c.after ops s)).keys := mem_keys_of_mem_labels returned hf mem
      obtain ⟨name, rfl⟩ := texts label key
      exact starts.undisturbed.stores.isRemovable h key
    · rintro ⟨null, -⟩
      cases null.symm.trans (named.keysAreTexts_iff.1 texts)

/-- A name that is there at every other read. -/
def flickering : Effect (Roster Empty Nat × Bool) (Value Empty) :=
  .ofFun fun s => (.ok (if s.2 then .null else .text "c"), s.1, !s.2)

theorem spares_flickering (cache : Nat) :
    (Operation.add flickering cache).Spares solitary fun _ => True := by
  refine ⟨fun s h named => .of_roster_eq h named rfl, ?_⟩
  rintro ⟨r, mark⟩ v t read
  cases mark <;> cases read
  · exact ⟨some "c", rfl⟩
  · exact ⟨none, rfl⟩

/-- A flickering name leaves no trace once all caches have been removed, and a cache that has no
name from the start is removed under its label. -/
theorem keys_texts_iff_flickering :
    let ops : List (Operation _ Empty Nat) :=
      [.add flickering 0, .clear] ++ [.add (return .ofName none) 1]
    solitary.KeysAreTexts (solitary.after ops (∅, false)) ∧
      ∀ families t, solitary.collect.runFrom (solitary.after ops (∅, false)) = (.ok families, t) →
        ∀ f ∈ families, ∀ label ∈ f.labels,
          solitary.IsRemovable (solitary.after ops (∅, false)) label := by
  intro ops
  have spares : ∀ op ∈ ops, op.Spares solitary fun _ => True := by
    intro op mem
    simp only [ops, List.cons_append, List.nil_append, List.mem_cons, List.not_mem_nil,
      or_false] at mem
    rcases mem with rfl | rfl | rfl
    · exact spares_flickering 0
    · trivial
    · exact spares_pure none 1
  have cleared : ¬ solitary.LeavesNameless ([.add flickering 0] ++ [.clear]) (∅, false) := by
    rw [leavesNameless_concat]
    rintro (enters | ⟨kept, -⟩)
    · exact enters
    · exact kept rfl
  have gone : ¬ solitary.LeavesNameless ops (∅, false) := by
    rw [leavesNameless_concat]
    rintro (enters | ⟨-, left⟩)
    · exact not_entersNameless_pure enters
    · exact cleared left
  obtain ⟨texts, removable, -⟩ := (startsEmpty_solitary spares false).keys_texts_iff.2 gone
  exact ⟨texts, removable⟩

open Session in
/-- A cache that has lost its name between the two reads, beside one that had none. -/
def lostName : World :=
  worldAfter
    [.newCache "lost" (.perform (.setCache "lost" (some .null) none) (.text "")) (.text "m"),
      .newCache "none" .null (.text "m"),
      .addCache "main" "lost",
      .addCache "main" "none"]
    default

/-- A cache whose name is gone at the second read is entered under null, where the empty text may
stand as well. -/
theorem keys_not_texts_lostName :
    ¬ (Session.collector 0).KeysAreTexts lostName ∧
      ((Session.collector 0).roster lostName).contains .null = true ∧
      ((Session.collector 0).roster lostName).contains (.text "") = true := by
  have null : ((Session.collector 0).roster lostName).contains .null = true := by decide +kernel
  refine ⟨fun texts => ?_, null, by decide +kernel⟩
  obtain ⟨⟨key, cache⟩, entry, same⟩ := List.any_eq_true.1 null
  obtain ⟨name, rfl⟩ := texts key (List.mem_map_of_mem entry)
  cases same

end Collector

end CacheTelemetry
