import CacheTelemetry.Proofs.ObjectName.Grammar
import CacheTelemetry.Proofs.ObjectName.RoundTrip
import CacheTelemetry.Proofs.OrderedMap
import Mathlib.Data.List.Nodup

/-!
# The canonical form of an object name

A name keeps its properties in the order of their keys, so that it does not matter in which order
they were given. `Arranges n domain ps` says what a name has made of a domain and of properties: it
has the domain, at least one property, keys that strictly increase, and under each key the value
that was given with it.

* The walk that checks the properties stops at the first fault and remembers the keys that it has
  passed. Whether it finds a fault at all does not depend on the order (`ofProperties_perm`), though
  which fault it finds does.
* Both ways to a name arrange what they are given (`arranges_of_ofProperties`,
  `exists_arranges_of_parse`).
* There is one arrangement only: **names with the same domain and the same set of properties are
  equal** (`eq_iff_forall_mem`), and so are names with the same canonical text.
-/

namespace CacheTelemetry.ObjectName

variable {domain text : String} {ps qs : List Property} {n m : ObjectName}

/-! ### The order in which properties are given -/

/-- Two orders of some properties are both accepted, for the same name, or both refused. -/
theorem ofProperties_perm (order : ps.Perm qs) :
    (∃ n, ofProperties domain ps = .ok n ∧ ofProperties domain qs = .ok n) ∨
      ∃ f g, ofProperties domain ps = .error f ∧ ofProperties domain qs = .error g := by
  rcases first : ofProperties domain ps with f | n
  · rcases second : ofProperties domain qs with g | m
    · exact .inr ⟨f, g, rfl, rfl⟩
    · have accepted : ofProperties domain ps = .ok m := ofProperties_of_perm order.symm second
      cases first.symm.trans accepted
  · exact .inl ⟨n, rfl, ofProperties_of_perm order first⟩

/-! ### The properties of a name -/

/-- The properties of a name as a map from keys to values. -/
def asMap (n : ObjectName) : OrderedMap String String where
  entries := n.properties
  distinct := (List.pairwise_map.1 n.keysIncrease.nodup).imp beq_false_of_ne

/-- The value of a key is the one that stands with it among the properties. -/
theorem get?_eq_some_iff {k v : String} : n.get? k = some v ↔ (k, v) ∈ n.properties := by
  constructor
  · intro found
    obtain ⟨⟨k', v'⟩, held, key, rfl⟩ :=
      OrderedMap.exists_mem_of_get?_eq_some (m := n.asMap) found
    rwa [← eq_of_beq key]
  · exact fun held => OrderedMap.get?_of_mem (m := n.asMap) (beq_self_eq_true k) held

/-- A name that has the given domain, and the given properties in the order of their keys. -/
structure Arranges (n : ObjectName) (domain : String) (ps : List Property) : Prop where
  domain_eq : n.domain = domain
  ne_nil : n.properties ≠ []
  keys_lt : n.properties.Pairwise fun p q => p.1 < q.1
  get?_iff : ∀ k v, n.get? k = some v ↔ (k, v) ∈ ps

/-- A name arranges what its properties are a permutation of. -/
theorem arranges_of_perm (domain_eq : n.domain = domain) (order : n.properties.Perm ps) :
    n.Arranges domain ps where
  domain_eq := domain_eq
  ne_nil := n.properties_ne_nil
  keys_lt := n.keysIncrease
  get?_iff _ _ := get?_eq_some_iff.trans order.mem_iff

/-- A name arranges the properties that it is built from. -/
theorem arranges_of_ofProperties (h : ofProperties domain ps = .ok n) : n.Arranges domain ps := by
  obtain ⟨-, domain_eq, properties⟩ := ofProperties_eq_ok_iff.1 h
  refine arranges_of_perm domain_eq ?_
  rw [properties]
  exact sortByKey_perm ps

/-- A name arranges the properties that are written in the text that it is read from. -/
theorem exists_arranges_of_parse (h : parse text = .ok n) :
    ∃ ps, Writes text n.domain ps ∧ n.Arranges n.domain ps := by
  obtain ⟨ps, writes, properties⟩ := parse_eq_ok_iff.1 h
  refine ⟨ps, writes, arranges_of_perm rfl ?_⟩
  rw [properties]
  exact sortByKey_perm ps

/-! ### Equality -/

/-- Names are equal if they have the same domain and the same set of properties. -/
theorem eq_iff_forall_mem :
    n = m ↔ n.domain = m.domain ∧ ∀ p, p ∈ n.properties ↔ p ∈ m.properties := by
  constructor
  · rintro rfl
    exact ⟨rfl, fun _ => Iff.rfl⟩
  · rintro ⟨domain_eq, held⟩
    have nodup : ∀ n : ObjectName, n.properties.Nodup :=
      fun n => List.Nodup.of_map Prod.fst n.keysIncrease.nodup
    have order : n.properties.Perm m.properties :=
      (List.perm_ext_iff_of_nodup (nodup n) (nodup m)).2 held
    refine ext domain_eq ?_
    -- keys that increase leave no choice of the order
    calc n.properties = sortByKey n.properties := (sortByKey_eq_self n.keysIncrease).symm
      _ = sortByKey m.properties := sortByKey_eq_of_perm order n.keysIncrease.nodup
      _ = m.properties := sortByKey_eq_self m.keysIncrease

/-- **The order of properties is immaterial.** Of two orders of some properties both are accepted or
both are malformed, and those that are accepted make equal names, with equal hashes and equal
canonical texts. Every name that is built or read arranges the properties that were given. Names are
equal exactly if they have the same domain and the same set of properties, and exactly if they have
the same canonical text. -/
theorem order_immaterial :
    (∀ (domain : String) (ps qs : List Property), ps.Perm qs →
      (∃ n m, ofProperties domain ps = .ok n ∧ ofProperties domain qs = .ok m ∧
        n = m ∧ hash n = hash m ∧ n.canonical = m.canonical) ∨
      ∃ f g, ofProperties domain ps = .error f ∧ ofProperties domain qs = .error g ∧
        (Fault.malformed f).kind = .malformedName ∧ (Fault.malformed g).kind = .malformedName) ∧
      (∀ domain ps n, ofProperties domain ps = .ok n → n.Arranges domain ps) ∧
      (∀ text n, parse text = .ok n → ∃ ps, Writes text n.domain ps ∧ n.Arranges n.domain ps) ∧
      ∀ n m : ObjectName,
        (n = m ↔ n.domain = m.domain ∧ ∀ p, p ∈ n.properties ↔ p ∈ m.properties) ∧
          (n = m ↔ n.canonical = m.canonical) := by
  refine ⟨?_, fun _ _ _ => arranges_of_ofProperties, fun _ _ => exists_arranges_of_parse, ?_⟩
  · intro domain ps qs order
    rcases ofProperties_perm order with ⟨n, first, second⟩ | ⟨f, g, first, second⟩
    · exact .inl ⟨n, n, first, second, rfl, rfl, rfl⟩
    · exact .inr ⟨f, g, first, second, rfl, rfl⟩
  · exact fun n m => ⟨eq_iff_forall_mem, congrArg canonical, canonical_inj⟩

/-- Two properties in either order, and in a text that has them in the wrong one; and two values for
one key, which are refused in either order. -/
theorem order_immaterial_two :
    (∃ n, ofProperties "d" [("b", "2"), ("a", "1")] = .ok n ∧
      ofProperties "d" [("a", "1"), ("b", "2")] = .ok n ∧ n.canonical = "d:a=1,b=2" ∧
      n.get? "b" = some "2" ∧
      ∃ ps, Writes "d:b=2,a=1" n.domain ps ∧ ∀ k v, n.get? k = some v ↔ (k, v) ∈ ps) ∧
    ∃ f g, ofProperties "d" [("a", "1"), ("a", "")] = .error f ∧
      ofProperties "d" [("a", ""), ("a", "1")] = .error g := by
  obtain ⟨orders, built, read, -⟩ := order_immaterial
  constructor
  · rcases orders "d" [("b", "2"), ("a", "1")] [("a", "1"), ("b", "2")] (.swap _ _ _) with
      ⟨n, m, given, sorted, rfl, -⟩ | ⟨f, -, refused, -⟩
    · have text : parse "d:b=2,a=1" = .ok n := parse_written_of_perm (.refl _) given
      obtain ⟨ps, writes, arranges⟩ := read _ n text
      have canonical : n.canonical = "d:a=1,b=2" := by
        rw [canonical_eq_written, (ofProperties_eq_ok_iff.1 sorted).2.1,
          (ofProperties_eq_ok_iff.1 sorted).2.2]
        decide
      exact ⟨n, given, sorted, canonical, ((built _ _ n given).get?_iff _ _).2 (by simp),
        ps, writes, arranges.get?_iff⟩
    · cases refused
  · rcases orders "d" [("a", "1"), ("a", "")] [("a", ""), ("a", "1")] (.swap _ _ _) with
      ⟨n, -, accepted, -⟩ | ⟨f, g, first, second, -⟩
    · cases accepted
    · exact ⟨f, g, first, second⟩

end CacheTelemetry.ObjectName
