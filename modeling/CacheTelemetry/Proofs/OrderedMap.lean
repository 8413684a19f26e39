import CacheTelemetry.OrderedMap
import Mathlib.Data.List.Pairwise
import Mathlib.Logic.Function.Basic

/-!
# Look-ups in ordered maps

What a look-up finds is an entry of the map. If the equality of keys is lawful, there is one entry
at most for each key, and inserting or erasing a key changes the look-ups in one place
(`get?_insert`, `get?_erase`).
-/

namespace CacheTelemetry

namespace OrderedMap

variable {κ ν : Type} [BEq κ] {m : OrderedMap κ ν} {k k' : κ} {v : ν}

/-! ### Entries -/

theorem entries_insert_of_contains (h : m.contains k = true) (v : ν) :
    (m.insert k v).entries = m.entries.map fun e => if e.1 == k then (e.1, v) else e := by
  simp [insert, h]

theorem entries_insert_of_not_contains (h : m.contains k = false) (v : ν) :
    (m.insert k v).entries = m.entries ++ [(k, v)] := by
  simp [insert, h]

theorem entries_erase (m : OrderedMap κ ν) (k : κ) :
    (m.erase k).entries = m.entries.filter fun e => !(e.1 == k) := rfl

/-! ### Look-ups -/

/-- What is found under a key stands in an entry with an equal key. -/
theorem exists_mem_of_get?_eq_some (h : m.get? k = some v) :
    ∃ e ∈ m.entries, (e.1 == k) = true ∧ e.2 = v := by
  obtain ⟨e, he, rfl⟩ := Option.map_eq_some_iff.1 h
  exact ⟨e, List.mem_of_find?_eq_some he, by simpa using List.find?_some he, rfl⟩

/-- What is found is one of the values. -/
theorem mem_values_of_get?_eq_some (h : m.get? k = some v) : v ∈ m.values := by
  obtain ⟨e, he, -, rfl⟩ := exists_mem_of_get?_eq_some h
  exact List.mem_map_of_mem he

/-- A key that is present is one of the keys. -/
theorem mem_keys_of_contains [LawfulBEq κ] (h : m.contains k = true) : k ∈ m.keys := by
  obtain ⟨e, he, hk⟩ := List.any_eq_true.1 h
  rw [← eq_of_beq hk]
  exact List.mem_map_of_mem he

/-- A key is present if one of the keys is equal to it. -/
theorem contains_eq_any_keys (m : OrderedMap κ ν) (k : κ) :
    m.contains k = m.keys.any fun k' => k' == k := by
  rw [contains, keys, List.any_map]
  rfl

/-- The keys are those that have a value. -/
theorem mem_keys_iff [LawfulBEq κ] : k ∈ m.keys ↔ (m.get? k).isSome = true := by
  rw [← contains_eq_isSome_get?]
  refine ⟨fun h => ?_, mem_keys_of_contains⟩
  obtain ⟨e, he, rfl⟩ := List.mem_map.1 h
  exact List.any_eq_true.2 ⟨e, he, beq_self_eq_true e.1⟩

/-- No key stands twice. -/
theorem nodup_keys [LawfulBEq κ] (m : OrderedMap κ ν) : m.keys.Nodup :=
  List.pairwise_map.2 (m.distinct.imp ne_of_beq_false)

/-- A key that equals itself stands in one entry at most. -/
theorem eq_of_mem_of_mem {v' : ν} (self : (k == k) = true) (h : (k, v) ∈ m.entries)
    (h' : (k, v') ∈ m.entries) : v = v' := by
  have once : m.entries.Pairwise fun a b => ¬ (a.1 = k ∧ b.1 = k) := by
    refine m.distinct.imp fun {a b} hab => ?_
    rintro ⟨rfl, hb⟩
    rw [hb, self] at hab
    cases hab
  have symm : Std.Symm fun a b : κ × ν => ¬ (a.1 = k ∧ b.1 = k) := ⟨fun _ _ h hs => h hs.symm⟩
  by_contra ne
  exact once.forall h h' (fun e => ne (Prod.mk.inj e).2) ⟨rfl, rfl⟩

/-- The value of an entry is found under its key, if the key equals itself. -/
theorem get?_of_mem (self : (k == k) = true) (h : (k, v) ∈ m.entries) : m.get? k = some v := by
  obtain ⟨before, after, split⟩ := List.append_of_mem h
  have distinct := m.distinct
  rw [split, List.pairwise_append] at distinct
  -- the entries before it have other keys
  have passed : before.find? (fun e => e.1 == k) = none := by
    refine List.find?_eq_none.2 fun e he => ?_
    rw [distinct.2.2 e he (k, v) List.mem_cons_self]
    exact Bool.false_ne_true
  rw [get?, split, List.find?_append, passed, Option.none_or, List.find?_cons, self]
  rfl

/-- The value of a key is the one that stands with it in an entry. -/
theorem get?_eq_some_iff_mem [LawfulBEq κ] : m.get? k = some v ↔ (k, v) ∈ m.entries := by
  refine ⟨fun found => ?_, get?_of_mem (beq_self_eq_true k)⟩
  obtain ⟨⟨k', v'⟩, held, key, rfl⟩ := exists_mem_of_get?_eq_some found
  rwa [← eq_of_beq key]

/-- What is found does not depend on the order of the entries. -/
theorem get?_eq_of_perm [LawfulBEq κ] {m m' : OrderedMap κ ν} (same : m.entries.Perm m'.entries)
    (k : κ) : m.get? k = m'.get? k := by
  refine Option.ext fun v => ?_
  rw [get?_eq_some_iff_mem, get?_eq_some_iff_mem]
  exact same.mem_iff

/-- A replacement of one value leaves the entries with other keys alone. -/
theorem find?_replace_of_apart (apart : ∀ key, (key == k) = true → (key == k') = false)
    (l : List (κ × ν)) (v : ν) :
    ((l.map fun e => if e.1 == k then (e.1, v) else e).find? fun e => e.1 == k') =
      l.find? fun e => e.1 == k' := by
  induction l with
  | nil => rfl
  | cons e rest ih =>
    by_cases hk : (e.1 == k) = true
    · simp [hk, ih, apart e.1 hk]
    · rw [List.map_cons, if_neg hk, List.find?_cons, List.find?_cons, ih]

/-- Inserting a key that nothing has in common with another one leaves the other alone. -/
theorem get?_insert_of_apart (m : OrderedMap κ ν)
    (apart : ∀ key, (key == k) = true → (key == k') = false) (differ : (k == k') = false) (v : ν) :
    (m.insert k v).get? k' = m.get? k' := by
  by_cases present : m.contains k
  · simp only [get?, insert, present, dite_true, find?_replace_of_apart apart]
  · simp [get?, insert, present, List.find?_append, differ]

/-- So does erasing such a key. -/
theorem get?_erase_of_apart (m : OrderedMap κ ν)
    (apart : ∀ key, (key == k) = true → (key == k') = false) :
    (m.erase k).get? k' = m.get? k' := by
  simp only [get?, erase, List.find?_filter]
  refine congrArg (Option.map Prod.snd) (congrArg (fun p => m.entries.find? p) ?_)
  refine funext fun e => ?_
  rcases hk : e.1 == k
  · simp
  · simp [apart e.1 hk]

theorem apart_of_ne [LawfulBEq κ] (h : k' ≠ k) (key : κ) (hk : (key == k) = true) :
    (key == k') = false := by
  rw [eq_of_beq hk]
  exact beq_false_of_ne h.symm

/-- Inserting a key leaves the others alone. -/
theorem get?_insert_of_ne [LawfulBEq κ] (m : OrderedMap κ ν) (h : k' ≠ k) (v : ν) :
    (m.insert k v).get? k' = m.get? k' :=
  get?_insert_of_apart m (apart_of_ne h) (beq_false_of_ne h.symm) v

/-- Erasing a key leaves the others alone. -/
theorem get?_erase_of_ne [LawfulBEq κ] (m : OrderedMap κ ν) (h : k' ≠ k) :
    (m.erase k).get? k' = m.get? k' :=
  get?_erase_of_apart m (apart_of_ne h)

/-- Inserting a key changes what is found under it, and nothing else. -/
theorem get?_insert [LawfulBEq κ] [DecidableEq κ] (m : OrderedMap κ ν) (k : κ) (v : ν) :
    (m.insert k v).get? = Function.update m.get? k (some v) := by
  refine Function.eq_update_iff.2 ⟨get?_insert_self m (beq_self_eq_true k) v, fun k' h => ?_⟩
  exact get?_insert_of_ne m h v

/-- Of two values that are put under a key one after the other, the second stays. -/
theorem insert_insert [LawfulBEq κ] (m : OrderedMap κ ν) (k : κ) (v v' : ν) :
    (m.insert k v).insert k v' = m.insert k v' := by
  have taken : (m.insert k v).contains k = true := by
    rw [contains_eq_isSome_get?, get?_insert_self m (beq_self_eq_true k), Option.isSome_some]
  refine ext ?_
  rw [entries_insert_of_contains taken]
  cases present : m.contains k with
  | true =>
    rw [entries_insert_of_contains present, entries_insert_of_contains present, List.map_map]
    refine List.map_congr_left fun e _ => ?_
    by_cases he : (e.1 == k) = true <;> simp [he]
  | false =>
    have kept : (m.entries.map fun e => if e.1 == k then (e.1, v') else e) = m.entries := by
      rw [contains, List.any_eq_false] at present
      exact (List.map_congr_left fun e he => if_neg (present e he)).trans (List.map_id _)
    rw [entries_insert_of_not_contains present, entries_insert_of_not_contains present,
      List.map_append, kept]
    simp

/-- Erasing a key leaves nothing under it, and changes nothing else. -/
theorem get?_erase [LawfulBEq κ] [DecidableEq κ] (m : OrderedMap κ ν) (k : κ) :
    (m.erase k).get? = Function.update m.get? k none := by
  refine Function.eq_update_iff.2 ⟨?_, fun k' h => get?_erase_of_ne m h⟩
  rw [← Option.not_isSome_iff_eq_none, ← contains_eq_isSome_get?, contains_erase_self]
  exact Bool.false_ne_true

/-- Inserting pairs with new keys, pairwise different, puts them at the end. -/
theorem entries_foldl_insert [LawfulBEq κ] {l : List (κ × ν)} (m : OrderedMap κ ν)
    (nodup : (m.keys ++ l.map Prod.fst).Nodup) :
    (l.foldl (fun m e => m.insert e.1 e.2) m).entries = m.entries ++ l := by
  induction l generalizing m with
  | nil => exact (List.append_nil _).symm
  | cons e rest ih =>
    rw [List.map_cons] at nodup
    have new : m.contains e.1 = false := by
      rw [Bool.eq_false_iff]
      intro present
      exact (List.nodup_append.1 nodup).2.2 _ (mem_keys_of_contains present) _
        List.mem_cons_self rfl
    have keys := keys_insert_of_not_contains new e.2
    rw [List.foldl_cons, ih, entries_insert_of_not_contains new, List.append_assoc]
    · rfl
    · rwa [keys, List.append_assoc]

/-- A list of pairs with pairwise different keys is the list of the entries of its map. -/
theorem entries_ofList [LawfulBEq κ] {l : List (κ × ν)} (nodup : (l.map Prod.fst).Nodup) :
    (ofList l).entries = l :=
  entries_foldl_insert ∅ nodup

/-- The entries that a test lets through, in their order. -/
def filter (m : OrderedMap κ ν) (keep : κ × ν → Bool) : OrderedMap κ ν where
  entries := m.entries.filter keep
  distinct := m.distinct.filter _

end OrderedMap

end CacheTelemetry
