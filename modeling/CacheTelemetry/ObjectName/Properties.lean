import CacheTelemetry.Text.Quoted

/-!
# Domains and key properties

What an object name may be made of. A domain holds no colon and no line feed. A key is not empty
and holds none of `, = : " * ?` and line feed; a value may be empty and may hold `*` and `?`, which
make the name a pattern. Keys are pairwise different, and there is at least one.

`firstFault` walks the parts of a name in reading order and reports the first rule that is broken;
`firstFault_eq_none_iff` says that it is silent exactly on admissible parts. `sortByKey` brings
properties into the order of their keys.
-/

namespace CacheTelemetry

/-- Why a text or a list of properties is no object name. -/
inductive Malformed where
  | domain (domain : String)
  | noProperties (domain : String)
  | emptyKey
  | repeatedKey (key : String)
  | property (key value : String)
  | noPropertyList (text : String)
  | noEquals (item : String)
  deriving DecidableEq, Repr, Inhabited

/-- The wording of the rule that is broken. -/
def Malformed.message : Malformed → String
  | .domain d => "对象名的域包含非法字符: " ++ Text.quoted d
  | .noProperties d => "对象名缺少键属性: " ++ Text.quoted d
  | .emptyKey => "对象名的键不能为空"
  | .repeatedKey k => "对象名的键重复: " ++ Text.quoted k
  | .property k v => "对象名的键属性包含非法字符: " ++ Text.quoted k ++ "=" ++ Text.quoted v
  | .noPropertyList t => "对象名缺少键属性列表: " ++ Text.quoted t
  | .noEquals i => "对象名的键属性缺少等号: " ++ Text.quoted i

namespace ObjectName

/-- A property: a key and its value. -/
abbrev Property := String × String

/-- A character that a domain must not hold. -/
def barsDomain (c : Char) : Bool := c == ':' || c == '\n'

/-- A character that a value must not hold. -/
def barsValue (c : Char) : Bool := c == ',' || c == '=' || c == ':' || c == '"' || c == '\n'

/-- A wildcard. -/
def isWildcard (c : Char) : Bool := c == '*' || c == '?'

/-- A character that a key must not hold. -/
def barsKey (c : Char) : Bool := barsValue c || isWildcard c

/-- A text without characters of a class. -/
def Avoids (bars : Char → Bool) (s : String) : Prop := ∀ c ∈ s.toList, bars c = false

instance (bars : Char → Bool) (s : String) : Decidable (Avoids bars s) :=
  List.decidableBAll (fun c => bars c = false) s.toList

/-- The rules for one property. -/
structure IsProperty (p : Property) : Prop where
  key_ne_empty : p.1 ≠ ""
  key_avoids : Avoids barsKey p.1
  value_avoids : Avoids barsValue p.2

/-- The rules for a domain and a list of properties in any order. -/
structure Admissible (domain : String) (ps : List Property) : Prop where
  domain_avoids : Avoids barsDomain domain
  ne_nil : ps ≠ []
  isProperty : ∀ p ∈ ps, IsProperty p
  keys_nodup : (ps.map Prod.fst).Nodup

/-- The first broken rule among the properties, given the keys that came before. -/
def firstPropertyFault (seen : List String) : List Property → Option Malformed
  | [] => none
  | (k, v) :: rest =>
    if k = "" then some .emptyKey
    else if k ∈ seen then some (.repeatedKey k)
    else if ¬ (Avoids barsKey k ∧ Avoids barsValue v) then some (.property k v)
    else firstPropertyFault (k :: seen) rest

/-- The first broken rule in reading order. -/
def firstFault (domain : String) (ps : List Property) : Option Malformed :=
  if ¬ Avoids barsDomain domain then some (.domain domain)
  else if ps = [] then some (.noProperties domain)
  else firstPropertyFault [] ps

theorem firstPropertyFault_eq_none_iff {seen : List String} {ps : List Property} :
    firstPropertyFault seen ps = none ↔
      (∀ p ∈ ps, IsProperty p) ∧ (ps.map Prod.fst).Nodup ∧ ∀ p ∈ ps, p.1 ∉ seen := by
  induction ps generalizing seen with
  | nil => simp [firstPropertyFault]
  | cons p rest ih =>
    obtain ⟨k, v⟩ := p
    simp only [firstPropertyFault]
    split
    · rename_i h
      simp only [reduceCtorEq, false_iff, not_and]
      exact fun all => absurd h (all (k, v) (by simp)).key_ne_empty
    · split
      · rename_i h
        simp only [reduceCtorEq, false_iff, not_and]
        exact fun _ _ fresh => fresh (k, v) (by simp) h
      · split
        · rename_i h
          simp only [reduceCtorEq, false_iff, not_and]
          exact fun all =>
            absurd ⟨(all (k, v) (by simp)).key_avoids, (all (k, v) (by simp)).value_avoids⟩ h
        · rename_i hk hs h
          rw [ih]
          simp only [Decidable.not_not] at h
          simp only [List.map_cons, List.nodup_cons, List.mem_cons, forall_eq_or_imp, not_or,
            List.mem_map, not_exists, not_and]
          constructor
          · rintro ⟨all, nodup, fresh⟩
            exact ⟨⟨⟨hk, h.1, h.2⟩, all⟩, ⟨fun q hq => (fresh q hq).1, nodup⟩, hs,
              fun q hq => (fresh q hq).2⟩
          · rintro ⟨⟨-, all⟩, ⟨fresh, nodup⟩, -, fresh'⟩
            exact ⟨all, nodup, fun q hq => ⟨fresh q hq, fresh' q hq⟩⟩

/-- The walk finds no fault exactly in admissible parts. -/
theorem firstFault_eq_none_iff {domain : String} {ps : List Property} :
    firstFault domain ps = none ↔ Admissible domain ps := by
  simp only [firstFault]
  split
  · rename_i h
    simpa using fun a : Admissible domain ps => h a.domain_avoids
  · rename_i hd
    split
    · rename_i h
      simpa using fun a : Admissible domain ps => a.ne_nil h
    · rename_i hn
      rw [firstPropertyFault_eq_none_iff]
      exact ⟨fun h => ⟨Decidable.not_not.1 hd, hn, h.1, h.2.1⟩,
        fun a => ⟨a.isProperty, a.keys_nodup, by simp⟩⟩

/-! ### The order of keys -/

/-- Puts a property in front of the first one with a greater key. -/
def insertByKey (p : Property) : List Property → List Property
  | [] => [p]
  | q :: rest => if p.1 < q.1 then p :: q :: rest else q :: insertByKey p rest

/-- Properties in the order of their keys. -/
def sortByKey (ps : List Property) : List Property := ps.foldr insertByKey []

/-- Keys strictly increase in the order of code points. -/
def KeysIncrease (ps : List Property) : Prop := ps.Pairwise fun p q => p.1 < q.1

theorem insertByKey_perm (p : Property) (ps : List Property) :
    (insertByKey p ps).Perm (p :: ps) := by
  induction ps with
  | nil => exact .refl _
  | cons q rest ih =>
    simp only [insertByKey]
    split
    · exact .refl _
    · exact (ih.cons q).trans (.swap p q rest)

theorem sortByKey_perm (ps : List Property) : (sortByKey ps).Perm ps := by
  induction ps with
  | nil => exact .refl _
  | cons p rest ih => exact (insertByKey_perm p _).trans (ih.cons p)

theorem insertByKey_keysIncrease {p : Property} {ps : List Property} (h : KeysIncrease ps)
    (fresh : ∀ q ∈ ps, p.1 ≠ q.1) : KeysIncrease (insertByKey p ps) := by
  induction ps with
  | nil => exact List.pairwise_singleton _ _
  | cons q rest ih =>
    rw [KeysIncrease, List.pairwise_cons] at h
    simp only [insertByKey]
    split
    · rename_i hlt
      refine List.pairwise_cons.2 ⟨?_, List.pairwise_cons.2 h⟩
      intro r hr
      rcases List.mem_cons.1 hr with rfl | hr
      · exact hlt
      · exact String.lt_trans hlt (h.1 r hr)
    · rename_i hlt
      have hqp : q.1 < p.1 :=
        Std.lt_of_le_of_ne (String.not_lt.1 hlt) (Ne.symm (fresh q (by simp)))
      refine List.pairwise_cons.2
        ⟨fun r hr => ?_, ih h.2 fun r hr => fresh r (List.mem_cons_of_mem _ hr)⟩
      rcases List.mem_cons.1 ((insertByKey_perm p rest).mem_iff.1 hr) with rfl | hr
      · exact hqp
      · exact h.1 r hr

/-- Sorting properties with pairwise different keys makes the keys increase strictly. -/
theorem sortByKey_keysIncrease {ps : List Property} (nodup : (ps.map Prod.fst).Nodup) :
    KeysIncrease (sortByKey ps) := by
  induction ps with
  | nil => exact .nil
  | cons p rest ih =>
    rw [List.map_cons, List.nodup_cons] at nodup
    refine insertByKey_keysIncrease (ih nodup.2) fun q hq h => nodup.1 ?_
    exact h ▸ List.mem_map_of_mem ((sortByKey_perm rest).mem_iff.1 hq)

end ObjectName

end CacheTelemetry
