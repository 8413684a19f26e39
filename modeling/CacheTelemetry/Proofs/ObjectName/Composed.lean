import CacheTelemetry.Fault.Basic
import CacheTelemetry.Proofs.ObjectName.RoundTrip
import CacheTelemetry.Proofs.ObjectName.Statistics

/-!
# Composing injects nothing

Spliced into a text, a cache name such as `a,x=y` would bring a property along. Composing does not
go by the text: **the arguments become the values of their keys as they are, or there is no name**
(`statisticsName_injects_nothing`). Which of the two is decided by the characters that an argument
must not hold; without them the text that the arguments are spliced into is read as the composed
name.

A composed name gives its four arguments back (`statisticsName_inj`): neither joining nor sorting
mixes them up.
-/

namespace CacheTelemetry

open ObjectName

variable {domain domain' type type' manager manager' cacheName cacheName' : String}
  {n m : ObjectName}

/-- Some argument of a composed name holds a character that its place does not allow. -/
def HoldsForbidden (domain type manager cacheName : String) : Prop :=
  (∃ c ∈ domain.toList, c ∈ [':', '\n']) ∨
    ∃ s ∈ [type, manager, cacheName], ∃ c ∈ s.toList, c ∈ [',', '=', ':', '"', '\n']

/-- Avoiding the characters of a class is holding none of them, if the class is given by a list. -/
theorem avoids_iff_not_exists {bars : Char → Bool} (listed : List Char)
    (spelled : ∀ c, bars c = true ↔ c ∈ listed) (s : String) :
    Avoids bars s ↔ ¬ ∃ c ∈ s.toList, c ∈ listed := by
  simp only [Avoids, ← spelled, not_exists, not_and, Bool.not_eq_true]

/-- Nothing forbidden is what the rules for domains and values say. -/
theorem not_holdsForbidden_iff :
    ¬ HoldsForbidden domain type manager cacheName ↔
      Avoids barsDomain domain ∧ Avoids barsValue type ∧ Avoids barsValue manager ∧
        Avoids barsValue cacheName := by
  have ofDomain : ∀ s, Avoids barsDomain s ↔ ¬ ∃ c ∈ s.toList, c ∈ [':', '\n'] :=
    avoids_iff_not_exists _ (by simp [barsDomain])
  have ofValue : ∀ s, Avoids barsValue s ↔ ¬ ∃ c ∈ s.toList, c ∈ [',', '=', ':', '"', '\n'] :=
    avoids_iff_not_exists _ (by simp [barsValue, or_assoc])
  rw [ofDomain, ofValue, ofValue, ofValue, HoldsForbidden, not_or]
  simp

instance : Decidable (HoldsForbidden domain type manager cacheName) :=
  decidable_of_iff (¬ (Avoids barsDomain domain ∧ Avoids barsValue type ∧ Avoids barsValue manager ∧
    Avoids barsValue cacheName)) ((not_congr not_holdsForbidden_iff.symm).trans Classical.not_not)

/-- Composing is refused for the fault of the parts. -/
theorem statisticsName_eq_error_iff {u : UnusableCacheName} :
    statisticsName domain type manager cacheName = .error u ↔
      ∃ fault, ofProperties domain (statisticsProperties type manager cacheName) = .error fault ∧
        u = ⟨cacheName, fault⟩ := by
  unfold statisticsName statisticsProperties
  rcases ofProperties domain [("type", type), ("CacheManager", manager), ("Cache", cacheName)] with
    fault | n
  · constructor
    · rintro ⟨⟩
      exact ⟨fault, rfl, rfl⟩
    · rintro ⟨_, ⟨⟩, rfl⟩
      rfl
  · constructor
    · rintro ⟨⟩
    · rintro ⟨_, ⟨⟩, -⟩

/-- The text of the arguments is the written form of the three properties. -/
theorem statisticsText_eq_written (domain type manager cacheName : String) :
    statisticsText domain type manager cacheName =
      written domain (statisticsProperties type manager cacheName) := by
  simp [statisticsText, written, statisticsProperties, propertyText, ← String.toList_inj]

/-- The canonical text of a composed name, the properties in the order of their keys. -/
theorem canonical_of_statisticsName (h : statisticsName domain type manager cacheName = .ok n) :
    n.canonical = domain ++ ":Cache=" ++ cacheName ++ ",CacheManager=" ++ manager ++ ",type=" ++
      type := by
  obtain ⟨-, domain_eq, properties⟩ := statisticsName_eq_ok_iff.1 h
  rw [canonical_eq_written, domain_eq, properties]
  simp [written, propertyText, ← String.toList_inj]

/-- The text of the arguments is read as the composed name. -/
theorem parse_statisticsText (h : statisticsName domain type manager cacheName = .ok n) :
    parse (statisticsText domain type manager cacheName) = .ok n := by
  rw [statisticsText_eq_written]
  exact parse_written_of_perm (.refl _) (statisticsName_eq_ok_iff_ofProperties.1 h)

/-- The arguments of a composed name can be read off the name. -/
theorem statisticsName_inj (hn : statisticsName domain type manager cacheName = .ok n)
    (hm : statisticsName domain' type' manager' cacheName' = .ok m) :
    n = m ↔ domain = domain' ∧ type = type' ∧ manager = manager' ∧ cacheName = cacheName' := by
  constructor
  · rintro rfl
    obtain ⟨-, domain_eq, properties⟩ := statisticsName_eq_ok_iff.1 hn
    obtain ⟨-, domain_eq', properties'⟩ := statisticsName_eq_ok_iff.1 hm
    have values : [("Cache", cacheName), ("CacheManager", manager), ("type", type)] =
        [("Cache", cacheName'), ("CacheManager", manager'), ("type", type')] :=
      properties.symm.trans properties'
    simp only [List.cons.injEq, Prod.mk.injEq, true_and, and_true] at values
    obtain ⟨cache_eq, manager_eq, type_eq⟩ := values
    exact ⟨domain_eq.symm.trans domain_eq', type_eq, manager_eq, cache_eq⟩
  · rintro ⟨rfl, rfl, rfl, rfl⟩
    exact Except.ok.inj (hn.symm.trans hm)

/-- **Arguments are values or are refused.** Composing fails exactly if an argument holds a
character that its place does not allow, and fails as malformed because the parts are malformed.
Else the name has the domain and the three properties, their values as they were given and nothing
besides; its canonical text has them in the order of the keys, and the text of the arguments is read
as it. -/
theorem statisticsName_injects_nothing (domain type manager cacheName : String) :
    ((∃ u, statisticsName domain type manager cacheName = .error u) ↔
      HoldsForbidden domain type manager cacheName) ∧
    (∀ u, statisticsName domain type manager cacheName = .error u →
      (Fault.unusableCacheName u).kind = .malformedName ∧ u.cacheName = cacheName ∧
        ∃ f, (Fault.unusableCacheName u).cause? = some f ∧ f.kind = .malformedName) ∧
    (¬ HoldsForbidden domain type manager cacheName →
      ∃ n, statisticsName domain type manager cacheName = .ok n ∧ n.domain = domain ∧
        n.properties.Perm
          [("type", type), ("CacheManager", manager), ("Cache", cacheName)] ∧
        n.canonical = domain ++ ":Cache=" ++ cacheName ++ ",CacheManager=" ++ manager ++
          ",type=" ++ type ∧
        parse (statisticsText domain type manager cacheName) = .ok n) := by
  have composed_iff : (∃ n, statisticsName domain type manager cacheName = .ok n) ↔
      ¬ HoldsForbidden domain type manager cacheName :=
    exists_statisticsName_iff.trans not_holdsForbidden_iff.symm
  have refused_iff : (∃ u, statisticsName domain type manager cacheName = .error u) ↔
      ¬ ∃ n, statisticsName domain type manager cacheName = .ok n := by
    rcases statisticsName domain type manager cacheName with u | n
    · simp
    · simp
  refine ⟨?_, ?_, ?_⟩
  · rw [refused_iff, composed_iff, Decidable.not_not]
  · intro u refused
    obtain ⟨fault, -, rfl⟩ := statisticsName_eq_error_iff.1 refused
    exact ⟨rfl, rfl, .malformed fault, rfl, rfl⟩
  · intro clean
    obtain ⟨n, composed⟩ := composed_iff.2 clean
    obtain ⟨-, domain_eq, -⟩ := statisticsName_eq_ok_iff.1 composed
    exact ⟨n, composed, domain_eq, properties_perm_of_statisticsName composed,
      canonical_of_statisticsName composed, parse_statisticsText composed⟩

/-- A cache name with a wildcard and blanks goes into a name as it is. One that would bring a
property along is refused, though the text with it is a name. -/
theorem statisticsName_injects_nothing_splices :
    (∃ n, statisticsName "d" "t" "m" "a b*" = .ok n ∧
      n.canonical = "d:Cache=a b*,CacheManager=m,type=t") ∧
    (∃ u, statisticsName "d" "t" "m" "a,x=y" = .error u ∧ u.cacheName = "a,x=y") ∧
    (parse (statisticsText "d" "t" "m" "a,x=y")).toOption.map (·.get? "x") = some (some "y") := by
  obtain ⟨-, -, composes⟩ := statisticsName_injects_nothing "d" "t" "m" "a b*"
  obtain ⟨refused, explained, -⟩ := statisticsName_injects_nothing "d" "t" "m" "a,x=y"
  obtain ⟨n, composed, -, -, canonical, -⟩ := composes (by decide)
  obtain ⟨u, error⟩ := refused.2 (by decide)
  exact ⟨⟨n, composed, canonical⟩, ⟨u, error, (explained u error).2.1⟩, by decide⟩

end CacheTelemetry
