import CacheTelemetry.ObjectName.Properties

/-!
# Object names

An object name is a domain with at least one key property. Two names are equal if they have the
same domain and the same properties, in whatever order these were given; to this end a name keeps
its properties in the order of their keys, and all rules on its parts are fields of the type.

* `ObjectName.ofProperties` builds a name, or reports the first broken rule.
* `ObjectName.canonical` is the text of a name, `domain:key=value,...` in the order of the keys.
-/

namespace CacheTelemetry

/-- A structured name: a domain and key properties, the keys strictly increasing. -/
structure ObjectName where
  domain : String
  properties : List ObjectName.Property
  domain_avoids : ObjectName.Avoids ObjectName.barsDomain domain
  properties_ne_nil : properties ≠ []
  isProperty : ∀ p ∈ properties, ObjectName.IsProperty p
  keysIncrease : ObjectName.KeysIncrease properties

namespace ObjectName

/-- Names are equal if their domains and properties are. -/
@[ext] theorem ext {n m : ObjectName} (domain : n.domain = m.domain)
    (properties : n.properties = m.properties) : n = m := by
  cases n; cases m; cases domain; cases properties; rfl

instance : DecidableEq ObjectName := fun n m =>
  if h : n.domain = m.domain ∧ n.properties = m.properties then
    isTrue (ext h.1 h.2)
  else isFalse fun e => h ⟨congrArg _ e, congrArg _ e⟩

instance : Hashable ObjectName := ⟨fun n => hash (n.domain, n.properties)⟩

/-- The name with admissible parts. -/
def ofAdmissible {domain : String} {ps : List Property} (h : Admissible domain ps) :
    ObjectName where
  domain := domain
  properties := sortByKey ps
  domain_avoids := h.domain_avoids
  properties_ne_nil := fun e => h.ne_nil ((e ▸ sortByKey_perm ps).nil_eq).symm
  isProperty := fun p hp => h.isProperty p ((sortByKey_perm ps).mem_iff.1 hp)
  keysIncrease := sortByKey_keysIncrease h.keys_nodup

/-- The name with the given domain and properties, or the first rule that they break. -/
def ofProperties (domain : String) (ps : List Property) : Except Malformed ObjectName :=
  match h : firstFault domain ps with
  | some fault => .error fault
  | none => .ok (ofAdmissible (firstFault_eq_none_iff.1 h))

/-- The text of one property. -/
def propertyText (p : Property) : String := p.1 ++ "=" ++ p.2

/-- The text of a name, with the properties in the order of their keys. -/
def canonical (n : ObjectName) : String :=
  n.domain ++ ":" ++ ",".intercalate (n.properties.map propertyText)

/-- The value of a key. -/
def get? (n : ObjectName) (key : String) : Option String :=
  (n.properties.find? fun p => p.1 == key).map Prod.snd

/-- Some value holds a wildcard. -/
def isPattern (n : ObjectName) : Bool :=
  n.properties.any fun p => p.2.toList.any isWildcard

/-- A name is built exactly from admissible parts, and then holds them in order. -/
theorem ofProperties_eq_ok_iff {domain : String} {ps : List Property} {n : ObjectName} :
    ofProperties domain ps = .ok n ↔
      Admissible domain ps ∧ n.domain = domain ∧ n.properties = sortByKey ps := by
  unfold ofProperties
  split
  · rename_i fault h
    simp only [reduceCtorEq, false_iff, not_and]
    intro a
    simp [firstFault_eq_none_iff.2 a] at h
  · rename_i h
    simp only [Except.ok.injEq]
    constructor
    · rintro rfl
      exact ⟨firstFault_eq_none_iff.1 h, rfl, rfl⟩
    · rintro ⟨-, hd, hp⟩
      exact ext hd.symm hp.symm

/-- Building a name fails exactly with the first fault of its parts. -/
theorem ofProperties_eq_error_iff {domain : String} {ps : List Property} {fault : Malformed} :
    ofProperties domain ps = .error fault ↔ firstFault domain ps = some fault := by
  unfold ofProperties
  split <;> rename_i h <;> simp [h]

end ObjectName

end CacheTelemetry
