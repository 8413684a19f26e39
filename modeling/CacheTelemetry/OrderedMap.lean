/-!
# Ordered maps

Finite maps that remember the order in which their keys first came in. A key keeps its place when
its value is replaced, and goes to the end when it is removed and inserted again. Keys are compared
by a Boolean equality that need not be reflexive: a key that differs from itself is never found.

* `OrderedMap.get?_insert_self` and `OrderedMap.contains_erase_self` describe the map through its
  look-ups.
* `OrderedMap.keys_insert_of_contains`, `OrderedMap.keys_insert_of_not_contains` and
  `OrderedMap.keys_erase` describe the order.
-/

namespace CacheTelemetry

/-- Entries with pairwise different keys, in the order of their first insertion. -/
structure OrderedMap (κ ν : Type) [BEq κ] where
  entries : List (κ × ν)
  distinct : entries.Pairwise fun a b => (a.1 == b.1) = false

namespace OrderedMap

variable {κ ν : Type} [BEq κ]

/-- The map without entries. -/
def empty : OrderedMap κ ν := ⟨[], .nil⟩

instance : EmptyCollection (OrderedMap κ ν) := ⟨empty⟩

instance : Inhabited (OrderedMap κ ν) := ⟨empty⟩

/-- The keys in order. -/
def keys (m : OrderedMap κ ν) : List κ := m.entries.map Prod.fst

/-- The values in order. -/
def values (m : OrderedMap κ ν) : List ν := m.entries.map Prod.snd

/-- The number of keys. -/
def size (m : OrderedMap κ ν) : Nat := m.entries.length

/-- The value of a key. -/
def get? (m : OrderedMap κ ν) (k : κ) : Option ν :=
  (m.entries.find? fun e => e.1 == k).map Prod.snd

/-- A key is present. -/
def contains (m : OrderedMap κ ν) (k : κ) : Bool :=
  m.entries.any fun e => e.1 == k

/-- Puts a value under a key: in the place of the equal key if there is one, else at the end. -/
def insert (m : OrderedMap κ ν) (k : κ) (v : ν) : OrderedMap κ ν :=
  if h : m.contains k then
    { entries := m.entries.map fun e => if e.1 == k then (e.1, v) else e
      distinct := by
        refine List.pairwise_map.2 (m.distinct.imp ?_)
        intro a b hab
        by_cases ha : a.1 == k <;> by_cases hb : b.1 == k <;> simpa [ha, hb] using hab }
  else
    { entries := m.entries ++ [(k, v)]
      distinct := by
        refine List.pairwise_append.2 ⟨m.distinct, List.pairwise_singleton _ _, ?_⟩
        intro a ha b hb
        rw [List.mem_singleton] at hb
        subst hb
        simp only [contains, List.any_eq_true, not_exists, not_and, Bool.not_eq_true] at h
        exact h a ha }

/-- Removes a key; the order of the others is kept. -/
def erase (m : OrderedMap κ ν) (k : κ) : OrderedMap κ ν where
  entries := m.entries.filter fun e => !(e.1 == k)
  distinct := m.distinct.filter _

/-- The map of a list of pairs; of two pairs with equal keys the first gives the place and the key,
the last the value. -/
def ofList (l : List (κ × ν)) : OrderedMap κ ν :=
  l.foldl (fun m e => m.insert e.1 e.2) ∅

/-- Changes the value of a key that is present. -/
def modify (m : OrderedMap κ ν) (k : κ) (f : ν → ν) : OrderedMap κ ν :=
  match m.get? k with
  | some v => m.insert k (f v)
  | none => m

instance [BEq ν] : BEq (OrderedMap κ ν) := ⟨fun a b => a.entries == b.entries⟩

@[simp] theorem entries_empty : (∅ : OrderedMap κ ν).entries = [] := rfl

@[simp] theorem get?_empty (k : κ) : (∅ : OrderedMap κ ν).get? k = none := rfl

@[simp] theorem size_empty : (∅ : OrderedMap κ ν).size = 0 := rfl

@[ext] theorem ext {m n : OrderedMap κ ν} (h : m.entries = n.entries) : m = n := by
  cases m; cases n; cases h; rfl

/-- A key is present exactly when it has a value. -/
theorem contains_eq_isSome_get? (m : OrderedMap κ ν) (k : κ) :
    m.contains k = (m.get? k).isSome := by
  simp only [contains, get?, Option.isSome_map]
  rw [Bool.eq_iff_iff, List.any_eq_true, List.find?_isSome]

/-- Replacing the value of a present key keeps all keys in place. -/
theorem keys_insert_of_contains {m : OrderedMap κ ν} {k : κ} (h : m.contains k) (v : ν) :
    (m.insert k v).keys = m.keys := by
  simp only [keys, insert, h, dite_true, List.map_map]
  refine List.map_congr_left fun e _ => ?_
  by_cases he : e.1 == k <;> simp [he]

/-- A new key goes to the end. -/
theorem keys_insert_of_not_contains {m : OrderedMap κ ν} {k : κ} (h : m.contains k = false)
    (v : ν) : (m.insert k v).keys = m.keys ++ [k] := by
  simp [keys, insert, h]

/-- Removing a key keeps the order of the others. -/
theorem keys_erase (m : OrderedMap κ ν) (k : κ) :
    (m.erase k).keys = m.keys.filter fun k' => !(k' == k) := by
  simp only [keys, erase, List.filter_map]
  rfl

/-- A removed key is absent. -/
theorem contains_erase_self (m : OrderedMap κ ν) (k : κ) : (m.erase k).contains k = false := by
  simp [contains, erase, List.any_eq_false]

/-- Removing a key that is absent changes nothing. -/
theorem erase_of_not_contains {m : OrderedMap κ ν} {k : κ} (h : m.contains k = false) :
    m.erase k = m := by
  apply ext
  simp only [contains, List.any_eq_false] at h
  simpa [erase, List.filter_eq_self] using h

/-- Replacing a value does not change which entry is found. -/
theorem find?_replace (l : List (κ × ν)) (k : κ) (v : ν) :
    (l.map fun e => if e.1 == k then (e.1, v) else e).find? (fun e => e.1 == k) =
      (l.find? fun e => e.1 == k).map fun e => (e.1, v) := by
  induction l with
  | nil => rfl
  | cons e r ih => by_cases h : e.1 == k <;> simp [h, ih]

/-- The value just put under a key is found there, if the key equals itself. -/
theorem get?_insert_self (m : OrderedMap κ ν) {k : κ} (hk : (k == k) = true) (v : ν) :
    (m.insert k v).get? k = some v := by
  by_cases h : m.contains k
  · obtain ⟨e, he⟩ := Option.isSome_iff_exists.1 (List.find?_isSome.2 (List.any_eq_true.1 h))
    simp only [get?, insert, h, dite_true, find?_replace, he, Option.map_some]
  · have none : m.entries.find? (fun e => e.1 == k) = none := by
      simpa [contains, List.any_eq_false] using h
    simp [get?, insert, h, List.find?_append, none, hk]

end OrderedMap

end CacheTelemetry
