import CacheTelemetry.Proofs.OrderedMap
import Mathlib.Data.List.DropRight

/-!
# Histories of ordered maps

A map that began empty is what the changes made of it: values that were entered under keys, keys
that left, and clearings. What it holds can be read off its history without replaying it, and
`History.entries` does so. A key is in if it was entered since it last left or all was cleared; its
value is the one that was entered last; and the keys stand in the order of the changes by which they
came in, which for each is the first that entered it since then. So a key keeps its place when it is
entered again, and goes to the end when it left in between.

`Follows key m history` says that the entries of a map are those of a history, with keys of the map
for the keys of the history. **A map follows its history through every change**
(`Follows.enter`, `Follows.leave`, `follows_clear`), and a map that follows a history is searched
and counted as the history says.
-/

namespace CacheTelemetry

/-- A change of a map. -/
inductive Change (ι ν : Type) where
  | enter (key : ι) (value : ν)
  | leave (key : ι)
  | clear

namespace Change

variable {ι ν : Type} [DecidableEq ι]

/-- The change takes a key out of the map. -/
def evicts (k : ι) : Change ι ν → Bool
  | .enter _ _ => false
  | .leave k' => decide (k' = k)
  | .clear => true

/-- The value that the change enters under a key. -/
def valueFor? (k : ι) : Change ι ν → Option ν
  | .enter k' v => if k' = k then some v else none
  | _ => none

/-- What the change makes of an entry of the map: it goes, or it stays with the value that is
entered, if one is. -/
def carry? (change : Change ι ν) (e : ι × ν) : Option (ι × ν) :=
  if change.evicts e.1 then none else some (e.1, (change.valueFor? e.1).getD e.2)

theorem eq_enter_of_valueFor? {change : Change ι ν} {k : ι} {v : ν}
    (h : change.valueFor? k = some v) : change = .enter k v := by
  cases change with
  | enter k' v' =>
    rw [valueFor?] at h
    split at h
    · rename_i same
      cases h
      rw [same]
    · cases h
  | leave _ => cases h
  | clear => cases h

end Change

namespace History

variable {ι ν : Type} [DecidableEq ι]

/-- The changes since a key was last taken out. -/
def since (history : List (Change ι ν)) (k : ι) : List (Change ι ν) :=
  history.rtakeWhile fun change => !change.evicts k

/-- The value that was entered last under a key since the key was last taken out. -/
def latest? (history : List (Change ι ν)) (k : ι) : Option ν :=
  ((since history k).filterMap (Change.valueFor? k)).getLast?

/-- The place of the change by which a key came in, the first that entered it since it was last
taken out. -/
def cameIn? (history : List (Change ι ν)) (k : ι) : Option Nat :=
  ((since history k).findIdx? fun change => (change.valueFor? k).isSome).map
    (history.length - (since history k).length + ·)

/-- The entry that stands at the place of a change: the change is the one by which its key came
in. -/
def entryAt? (history : List (Change ι ν)) : Change ι ν × Nat → Option (ι × ν)
  | (.enter k _, i) => if cameIn? history k = some i then (latest? history k).map (k, ·) else none
  | _ => none

/-- The entries that a history leaves, in the order in which their keys came in. -/
def entries (history : List (Change ι ν)) : List (ι × ν) :=
  history.zipIdx.filterMap (entryAt? history)

variable {history : List (Change ι ν)} {change : Change ι ν} {k k' : ι} {v : ν} {i : Nat}

/-! ### One more change -/

theorem since_concat (history : List (Change ι ν)) (change : Change ι ν) (k : ι) :
    since (history ++ [change]) k =
      if change.evicts k then [] else since history k ++ [change] := by
  rw [since, List.rtakeWhile_concat]
  cases change.evicts k <;> rfl

theorem length_since_le (history : List (Change ι ν)) (k : ι) :
    (since history k).length ≤ history.length :=
  (List.rtakeWhile_suffix _ history).length_le

theorem latest?_concat (history : List (Change ι ν)) (change : Change ι ν) (k : ι) :
    latest? (history ++ [change]) k =
      if change.evicts k then none else (change.valueFor? k).or (latest? history k) := by
  rw [latest?, since_concat]
  split
  · rfl
  · rw [List.filterMap_append, List.getLast?_append, latest?]
    cases hv : change.valueFor? k <;> simp [hv]

theorem cameIn?_concat (history : List (Change ι ν)) (change : Change ι ν) (k : ι) :
    cameIn? (history ++ [change]) k =
      if change.evicts k then none
      else (cameIn? history k).or
        (if (change.valueFor? k).isSome then some history.length else none) := by
  rw [cameIn?, since_concat]
  split
  · rfl
  · have le : (since history k).length ≤ history.length := length_since_le history k
    have offset : (history ++ [change]).length - (since history k ++ [change]).length =
        history.length - (since history k).length := by
      rw [List.length_append, List.length_append]
      omega
    rw [offset, List.findIdx?_append, cameIn?]
    cases (since history k).findIdx? fun c => (c.valueFor? k).isSome with
    | some j => rfl
    | none =>
      cases hv : change.valueFor? k with
      | none => simp [hv]
      | some v =>
        simp [hv]
        omega

/-- A key came in at some place exactly if it has a value. -/
theorem isSome_cameIn? (history : List (Change ι ν)) (k : ι) :
    (cameIn? history k).isSome = (latest? history k).isSome := by
  induction history using List.reverseRecOn with
  | nil => rfl
  | append_singleton history change ih =>
    rw [cameIn?_concat, latest?_concat]
    split
    · rfl
    · cases hv : change.valueFor? k <;> simp [ih]

/-- The change by which a key came in entered a value under it. -/
theorem exists_enter_of_cameIn? (h : cameIn? history k = some i) :
    ∃ v, history[i]? = some (.enter k v) := by
  induction history using List.reverseRecOn with
  | nil => cases h
  | append_singleton history change ih =>
    rw [cameIn?_concat] at h
    split at h
    · cases h
    · rcases hc : cameIn? history k with _ | j
      · rw [hc, Option.none_or] at h
        split at h
        · cases h
          rename_i entered
          obtain ⟨v, hv⟩ := Option.isSome_iff_exists.1 entered
          exact ⟨v, by rw [List.getElem?_concat_length, Change.eq_enter_of_valueFor? hv]⟩
        · cases h
      · rw [hc] at h
        cases h
        obtain ⟨v, hv⟩ := ih hc
        refine ⟨v, ?_⟩
        obtain ⟨lt, -⟩ := List.getElem?_eq_some_iff.1 hv
        rw [List.getElem?_append_left lt, hv]

theorem lt_length_of_cameIn? (h : cameIn? history k = some i) : i < history.length := by
  obtain ⟨v, hv⟩ := exists_enter_of_cameIn? h
  exact (List.getElem?_eq_some_iff.1 hv).1

/-! ### The entries -/

/-- A key is entered with its value and with no other. -/
theorem mem_entries_iff : (k, v) ∈ entries history ↔ latest? history k = some v := by
  rw [entries, List.mem_filterMap]
  constructor
  · rintro ⟨⟨change, i⟩, -, h⟩
    cases change with
    | enter k' v' =>
      rw [entryAt?] at h
      split at h
      · obtain ⟨w, hw, same⟩ := Option.map_eq_some_iff.1 h
        cases same
        exact hw
      · cases h
    | leave _ => cases h
    | clear => cases h
  · intro h
    obtain ⟨i, hi⟩ := Option.isSome_iff_exists.1
      ((isSome_cameIn? history k).trans (by rw [h]; rfl))
    obtain ⟨v', hv'⟩ := exists_enter_of_cameIn? hi
    refine ⟨(.enter k v', i), List.mem_zipIdx_iff_getElem?.2 hv', ?_⟩
    rw [entryAt?, if_pos hi, h]
    rfl

/-- No place of an earlier change is the place by which a key comes in with one more. -/
theorem cameIn?_concat_eq_some_iff (lt : i < history.length) :
    cameIn? (history ++ [change]) k = some i ↔
      change.evicts k = false ∧ cameIn? history k = some i := by
  rw [cameIn?_concat]
  cases change.evicts k with
  | true => simp
  | false =>
    rcases hc : cameIn? history k with _ | j
    · have last : ¬ history.length = i := by omega
      simp [last]
    · simp

/-- The keys of the entries are those that have a value. -/
theorem mem_map_entries_iff :
    k ∈ (entries history).map Prod.fst ↔ (latest? history k).isSome = true := by
  rw [List.mem_map, Option.isSome_iff_exists]
  constructor
  · rintro ⟨e, he, rfl⟩
    exact ⟨e.2, mem_entries_iff.1 he⟩
  · rintro ⟨v, hv⟩
    exact ⟨(k, v), mem_entries_iff.2 hv, rfl⟩

/-- What one more change makes of the entry at an earlier place. -/
theorem entryAt?_concat {p : Change ι ν × Nat} (lt : p.2 < history.length) :
    entryAt? (history ++ [change]) p = (entryAt? history p).bind change.carry? := by
  obtain ⟨entered, i⟩ := p
  cases entered with
  | enter k' v' =>
    rw [entryAt?, entryAt?]
    simp only [cameIn?_concat_eq_some_iff lt]
    by_cases hi : cameIn? history k' = some i
    · obtain ⟨w, hw⟩ := Option.isSome_iff_exists.1
        ((isSome_cameIn? history k').symm.trans (by rw [hi]; rfl))
      rw [if_pos hi, hw, latest?_concat, hw, Option.map_some, Option.bind_some, Change.carry?]
      cases change.evicts k' with
      | true => rfl
      | false => cases change.valueFor? k' <;> simp [hi]
    · rw [if_neg hi, if_neg fun h => hi h.2]
      rfl
  | leave _ => rfl
  | clear => rfl

/-- One more change: what it makes of the entries, and the entry that it brings in. -/
theorem entries_concat (history : List (Change ι ν)) (change : Change ι ν) :
    entries (history ++ [change]) = (entries history).filterMap change.carry? ++
      (entryAt? (history ++ [change]) (change, history.length)).toList := by
  have earlier : history.zipIdx.filterMap (entryAt? (history ++ [change])) =
      (entries history).filterMap change.carry? := by
    rw [entries, List.filterMap_filterMap]
    refine List.filterMap_congr fun p hp => entryAt?_concat ?_
    have h := List.mem_zipIdx_iff_getElem?.1 hp
    exact (List.getElem?_eq_some_iff.1 h).1
  rw [entries, List.zipIdx_append, List.filterMap_append, earlier]
  congr 1
  rw [List.zipIdx_singleton, Nat.zero_add]
  cases h : entryAt? (history ++ [change]) (change, history.length) <;> simp [h]

/-- What entering a value makes of the entries. -/
theorem carry?_enter (k : ι) (v : ν) :
    (Change.enter k v).carry? = some ∘ fun e : ι × ν => if e.1 = k then (e.1, v) else e := by
  funext e
  by_cases h : e.1 = k
  · simp [Change.carry?, Change.evicts, Change.valueFor?, h]
  · simp [Change.carry?, Change.evicts, Change.valueFor?, h, Ne.symm h]

/-- A key that is entered again keeps its place and has the new value. -/
theorem entries_enter_of_present (present : (latest? history k).isSome) (v : ν) :
    entries (history ++ [.enter k v]) =
      (entries history).map fun e => if e.1 = k then (e.1, v) else e := by
  have nothing : entryAt? (history ++ [.enter k v]) (.enter k v, history.length) = none := by
    obtain ⟨i, hi⟩ := Option.isSome_iff_exists.1 ((isSome_cameIn? history k).trans present)
    have earlier : i ≠ history.length := (lt_length_of_cameIn? hi).ne
    simp [entryAt?, cameIn?_concat, Change.evicts, hi, earlier]
  rw [entries_concat, nothing, Option.toList_none, List.append_nil, carry?_enter,
    List.filterMap_eq_map]

/-- A key that comes in goes to the end. -/
theorem entries_enter_of_absent (absent : latest? history k = none) (v : ν) :
    entries (history ++ [.enter k v]) = entries history ++ [(k, v)] := by
  have out : cameIn? history k = none := by
    rw [← Option.not_isSome_iff_eq_none, isSome_cameIn?, absent]
    exact Bool.false_ne_true
  have last : entryAt? (history ++ [.enter k v]) (.enter k v, history.length) = some (k, v) := by
    simp [entryAt?, cameIn?_concat, latest?_concat, Change.evicts, Change.valueFor?, out]
  have kept : ∀ e ∈ entries history, (if e.1 = k then (e.1, v) else e) = e := by
    intro e he
    refine if_neg fun h => ?_
    have value : latest? history k = some e.2 := mem_entries_iff.1 (h ▸ he)
    rw [absent] at value
    cases value
  rw [entries_concat, last, carry?_enter, List.filterMap_eq_map, List.map_congr_left kept,
    List.map_id']
  rfl

/-- A key that leaves goes, and the others stay in their order. -/
theorem entries_leave (history : List (Change ι ν)) (k : ι) :
    entries (history ++ [.leave k]) = (entries history).filter fun e => decide (e.1 ≠ k) := by
  have carry : (Change.leave k : Change ι ν).carry? =
      Option.guard fun e : ι × ν => decide (e.1 ≠ k) := by
    funext e
    by_cases h : e.1 = k
    · simp [Change.carry?, Change.evicts, Option.guard, h]
    · simp [Change.carry?, Change.evicts, Change.valueFor?, Option.guard, h, Ne.symm h]
  rw [entries_concat, carry, List.filterMap_eq_filter]
  exact List.append_nil _

/-- A clearing leaves nothing. -/
theorem entries_clear (history : List (Change ι ν)) : entries (history ++ [.clear]) = [] := by
  have carry : (Change.clear : Change ι ν).carry? = fun _ => none := rfl
  rw [entries_concat, carry]
  simp [entryAt?]

end History

namespace OrderedMap

open History

variable {ι κ ν : Type} [DecidableEq ι] [BEq κ]

/-- A map has the entries that a history leaves, with keys of the map for the keys of the
history. -/
def Follows (key : ι → κ) (m : OrderedMap κ ν) (history : List (Change ι ν)) : Prop :=
  m.entries = (History.entries history).map fun e => (key e.1, e.2)

theorem follows_empty (key : ι → κ) : Follows key (∅ : OrderedMap κ ν) [] := rfl

/-- A map without entries follows any history that ends with a clearing. -/
theorem follows_clear (key : ι → κ) (history : List (Change ι ν)) :
    Follows key (∅ : OrderedMap κ ν) (history ++ [.clear]) := by
  rw [Follows, History.entries_clear]
  rfl

namespace Follows

variable {key : ι → κ} {m : OrderedMap κ ν} {history : List (Change ι ν)} {k : ι}

section

variable (faithful : ∀ a b, (key a == key b) = decide (a = b)) (follows : Follows key m history)

include faithful follows

/-- What is found under a key is the value that was entered last. -/
theorem get?_eq (k : ι) : m.get? (key k) = latest? history k := by
  have self : (key k == key k) = true := by rw [faithful, decide_eq_true_eq]
  have found : ∀ v, m.get? (key k) = some v → latest? history k = some v := by
    intro v h
    obtain ⟨e, he, same, rfl⟩ := exists_mem_of_get?_eq_some h
    rw [follows] at he
    obtain ⟨⟨k', v'⟩, hmem, rfl⟩ := List.mem_map.1 he
    rw [faithful, decide_eq_true_eq] at same
    subst same
    exact mem_entries_iff.1 hmem
  cases hv : latest? history k with
  | some v =>
    have mem : (key k, v) ∈ m.entries := by
      rw [follows]
      exact List.mem_map_of_mem (mem_entries_iff.2 hv)
    have present : m.contains (key k) = true := List.any_eq_true.2 ⟨_, mem, self⟩
    rw [contains_eq_isSome_get?] at present
    obtain ⟨w, hw⟩ := Option.isSome_iff_exists.1 present
    rw [hw, ← hv, found w hw]
  | none =>
    refine Option.eq_none_iff_forall_ne_some.2 fun v h => ?_
    rw [found v h] at hv
    cases hv

/-- A key is present exactly if it was entered since it was last taken out. -/
theorem contains_eq (k : ι) : m.contains (key k) = (latest? history k).isSome := by
  rw [contains_eq_isSome_get?, get?_eq faithful follows]

/-- No key has two entries. -/
theorem nodup : ((History.entries history).map Prod.fst).Nodup := by
  have distinct := m.distinct
  rw [follows, List.pairwise_map] at distinct
  refine List.pairwise_map.2 (distinct.imp fun {a b} h => ?_)
  rwa [faithful, decide_eq_false_iff_not] at h

/-- A map follows its history when a value is inserted. -/
theorem enter (k : ι) (v : ν) : Follows key (m.insert (key k) v) (history ++ [.enter k v]) := by
  by_cases present : (latest? history k).isSome
  · have h : m.contains (key k) = true := (contains_eq faithful follows k).trans present
    rw [Follows, History.entries_enter_of_present present, entries_insert_of_contains h, follows,
      List.map_map, List.map_map]
    refine List.map_congr_left fun e _ => ?_
    by_cases he : e.1 = k <;> simp [faithful, he]
  · have absent : latest? history k = none := Option.not_isSome_iff_eq_none.1 present
    have h : m.contains (key k) = false := by
      rw [contains_eq faithful follows k, absent]
      rfl
    rw [Follows, History.entries_enter_of_absent absent, entries_insert_of_not_contains h,
      follows, List.map_append]
    rfl

/-- A map follows its history when a key is erased. -/
theorem leave (k : ι) : Follows key (m.erase (key k)) (history ++ [.leave k]) := by
  rw [Follows, History.entries_leave, entries_erase, follows, List.filter_map]
  congr 1
  refine List.filter_congr fun e _ => ?_
  simp [faithful]

end

end Follows

end OrderedMap

end CacheTelemetry
