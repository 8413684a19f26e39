import CacheTelemetry.Collector.Scrape
import CacheTelemetry.Proofs.ObjectName.Written

/-!
# When statistics have a name

A statistics name is composed of a domain and three values. Keys are fixed and pairwise different,
so composing fails only over characters: `statisticsName_eq_ok_iff` gives **the exact condition and
the name itself**, the properties in the order of their keys.

Sanitizing takes away every forbidden character of a value but the double quote, and it neither
brings in nor takes away quotes and wildcards. With admissible settings a sanitized address and a
sanitized cache name that can be written compose a name exactly if neither holds a double quote
(`Settings.exists_nameOf_iff`), and the name is a pattern exactly if one of the two holds a wildcard
(`Settings.isPattern_of_nameOf`).

Whoever registers statistics writes the three properties in an order of their own: **every such text
is read as the name that is composed** (`Settings.parse_of_nameOf`).
-/

namespace CacheTelemetry

open ObjectName

/-! ### Sanitizing -/

/-- Sanitizing keeps a character that it does not replace, and brings in points only. -/
theorem mem_sanitizeText_iff {c : Char} (hsep : isSeparator c = false) (hdot : c ≠ '.')
    (s : String) : c ∈ (sanitizeText s).toList ↔ c ∈ s.toList := by
  rw [sanitizeText, String.toList_map, List.mem_map]
  constructor
  · rintro ⟨b, hb, rfl⟩
    unfold sanitizeChar at hdot ⊢
    split
    · rename_i h
      exact absurd (if_pos h) hdot
    · exact hb
  · exact fun hc => ⟨c, hc, if_neg (by simp [hsep])⟩

/-- No separator is left. -/
theorem avoids_isSeparator_sanitizeText (s : String) : Avoids isSeparator (sanitizeText s) := by
  intro c hc
  rw [sanitizeText, String.toList_map, List.mem_map] at hc
  obtain ⟨b, -, rfl⟩ := hc
  unfold sanitizeChar
  split
  · decide
  · rename_i h
    simpa using h

/-- A value may hold what is neither a separator nor a double quote. -/
theorem barsValue_eq (c : Char) : barsValue c = (isSeparator c || c == '"') := by
  simp only [barsValue, isSeparator, Bool.or_assoc]
  grind

/-- A sanitized text may be a value exactly if the text holds no double quote. -/
theorem avoids_barsValue_sanitizeText_iff (s : String) :
    Avoids barsValue (sanitizeText s) ↔ '"' ∉ s.toList := by
  rw [← mem_sanitizeText_iff (c := '"') (by decide) (by decide) s]
  constructor
  · intro h hq
    exact absurd (h _ hq) (by decide)
  · intro hq c hc
    rw [barsValue_eq, avoids_isSeparator_sanitizeText s c hc, Bool.false_or, beq_eq_false_iff_ne]
    exact fun e => hq (e ▸ hc)

/-- A sanitized text holds a wildcard exactly if the text does. -/
theorem any_isWildcard_sanitizeText (s : String) :
    (sanitizeText s).toList.any isWildcard = s.toList.any isWildcard := by
  rw [Bool.eq_iff_iff, List.any_eq_true, List.any_eq_true]
  have keep : ∀ c, isWildcard c = true → (c ∈ (sanitizeText s).toList ↔ c ∈ s.toList) := by
    intro c hc
    have h : c = '*' ∨ c = '?' := by simpa [isWildcard] using hc
    refine mem_sanitizeText_iff ?_ ?_ s <;> rcases h with rfl | rfl <;> decide
  exact exists_congr fun c => and_congr_left (keep c)

namespace Value

variable {κ : Type}

/-- Null is sanitized to nothing, every other value to its sanitized text. -/
theorem sanitized_eq (v : Value κ) :
    v.sanitized = "" ∧ v.plain = "None" ∨ v.sanitized = sanitizeText v.plain := by
  cases v <;> first | exact .inl ⟨rfl, rfl⟩ | exact .inr rfl

@[simp] theorem sanitized_text (s : String) :
    Value.sanitized (.text s : Value κ) = sanitizeText s := rfl

@[simp] theorem plain_text (s : String) : Value.plain (.text s : Value κ) = s := rfl

@[simp] theorem isWritable_text (s : String) : (.text s : Value κ).isWritable = true := rfl

theorem written_of_isWritable {v : Value κ} (h : v.isWritable = true) (form : Value κ → String) :
    v.written form = .ok (form v) := if_pos h

theorem written_of_not_isWritable {v : Value κ} (h : v.isWritable = false)
    (form : Value κ → String) : v.written form = .error .unwritable := by
  rw [written, h]
  rfl

/-- A sanitized value may be the value of a key exactly if its text holds no double quote. -/
theorem avoids_barsValue_sanitized_iff (v : Value κ) :
    Avoids barsValue v.sanitized ↔ '"' ∉ v.plain.toList := by
  rcases v.sanitized_eq with ⟨hs, hp⟩ | hs
  · rw [hs, hp]
    decide
  · rw [hs, avoids_barsValue_sanitizeText_iff]

/-- A sanitized value holds a wildcard exactly if its text does. -/
theorem any_isWildcard_sanitized (v : Value κ) :
    v.sanitized.toList.any isWildcard = v.plain.toList.any isWildcard := by
  rcases v.sanitized_eq with ⟨hs, hp⟩ | hs
  · rw [hs, hp]
    decide
  · rw [hs, any_isWildcard_sanitizeText]

end Value

/-! ### Composing -/

/-- The properties of a statistics name, in the order in which the name is composed. -/
def statisticsProperties (statisticsType manager cacheName : String) : List Property :=
  [("type", statisticsType), ("CacheManager", manager), ("Cache", cacheName)]

/-- Composing a statistics name is building a name from its three properties. -/
theorem statisticsName_eq_ok_iff_ofProperties {domain type manager cacheName : String}
    {n : ObjectName} :
    statisticsName domain type manager cacheName = .ok n ↔
      ofProperties domain (statisticsProperties type manager cacheName) = .ok n := by
  unfold statisticsName statisticsProperties
  cases ofProperties domain [("type", type), ("CacheManager", manager), ("Cache", cacheName)] with
  | error fault => constructor <;> rintro ⟨⟩
  | ok m =>
    constructor
    · rintro ⟨⟩
      rfl
    · rintro ⟨⟩
      rfl

/-- The rules for the parts of a statistics name are rules on characters. -/
theorem admissible_statisticsProperties_iff {domain type manager cacheName : String} :
    Admissible domain (statisticsProperties type manager cacheName) ↔
      Avoids barsDomain domain ∧ Avoids barsValue type ∧ Avoids barsValue manager ∧
        Avoids barsValue cacheName := by
  constructor
  · intro a
    exact ⟨a.domain_avoids,
      (a.isProperty ("type", type) (by simp [statisticsProperties])).value_avoids,
      (a.isProperty ("CacheManager", manager) (by simp [statisticsProperties])).value_avoids,
      (a.isProperty ("Cache", cacheName) (by simp [statisticsProperties])).value_avoids⟩
  · rintro ⟨hd, ht, hm, hc⟩
    have property : ∀ k v, k ≠ "" → Avoids barsKey k → Avoids barsValue v → IsProperty (k, v) :=
      fun _ _ ne key value => ⟨ne, key, value⟩
    refine ⟨hd, by simp [statisticsProperties], ?_, by simp [statisticsProperties]⟩
    simp only [statisticsProperties, List.mem_cons, List.not_mem_nil, or_false, forall_eq_or_imp,
      forall_eq]
    exact ⟨property _ _ (by decide) (by decide) ht, property _ _ (by decide) (by decide) hm,
      property _ _ (by decide) (by decide) hc⟩

/-- When composing gives a name, and which. -/
theorem statisticsName_eq_ok_iff {domain type manager cacheName : String} {n : ObjectName} :
    statisticsName domain type manager cacheName = .ok n ↔
      (Avoids barsDomain domain ∧ Avoids barsValue type ∧ Avoids barsValue manager ∧
        Avoids barsValue cacheName) ∧ n.domain = domain ∧
        n.properties = [("Cache", cacheName), ("CacheManager", manager), ("type", type)] := by
  have sorted : sortByKey (statisticsProperties type manager cacheName) =
      [("Cache", cacheName), ("CacheManager", manager), ("type", type)] := by
    have type_manager : ¬ "type" < "CacheManager" := by decide
    have type_cache : ¬ "type" < "Cache" := by decide
    have manager_cache : ¬ "CacheManager" < "Cache" := by decide
    simp [sortByKey, statisticsProperties, insertByKey, type_manager, type_cache, manager_cache]
  rw [statisticsName_eq_ok_iff_ofProperties, ofProperties_eq_ok_iff,
    admissible_statisticsProperties_iff, sorted]

/-- A composed name has the three properties and no others. -/
theorem properties_perm_of_statisticsName {domain type manager cacheName : String} {n : ObjectName}
    (h : statisticsName domain type manager cacheName = .ok n) :
    n.properties.Perm (statisticsProperties type manager cacheName) := by
  obtain ⟨-, -, properties⟩ := statisticsName_eq_ok_iff.1 h
  rw [properties]
  -- the order of the keys is the reverse of the order in which the name is composed
  exact List.reverse_perm (statisticsProperties type manager cacheName)

/-- Composing gives a name exactly from admissible characters. -/
theorem exists_statisticsName_iff {domain type manager cacheName : String} :
    (∃ n, statisticsName domain type manager cacheName = .ok n) ↔
      Avoids barsDomain domain ∧ Avoids barsValue type ∧ Avoids barsValue manager ∧
        Avoids barsValue cacheName := by
  refine ⟨fun ⟨n, h⟩ => (statisticsName_eq_ok_iff.1 h).1, fun h => ?_⟩
  have a := admissible_statisticsProperties_iff.2 h
  exact ⟨ofAdmissible a,
    statisticsName_eq_ok_iff_ofProperties.2 (ofProperties_eq_ok_iff.2 ⟨a, rfl, rfl⟩)⟩

/-- A composed name is a pattern exactly if one of its values holds a wildcard. -/
theorem isPattern_of_statisticsName {domain type manager cacheName : String} {n : ObjectName}
    (h : statisticsName domain type manager cacheName = .ok n) :
    n.isPattern = (cacheName.toList.any isWildcard || (manager.toList.any isWildcard ||
      type.toList.any isWildcard)) := by
  simp [isPattern, (statisticsName_eq_ok_iff.1 h).2.2]

/-- The least integer that has too many digits to be written. -/
def firstUnwritable : Int := .ofNat (Nat.pow 10 Numeral.maxDigits)

/-- Wording a failure in another way makes no difference to a result. -/
theorem mapError_eq_ok_iff {ε ε' α : Type} {x : Except ε α} {g : ε → ε'} {a : α} :
    x.mapError g = .ok a ↔ x = .ok a := by
  cases x with
  | ok b =>
    exact ⟨fun h => congrArg Except.ok (Except.ok.inj h),
      fun h => congrArg Except.ok (Except.ok.inj h)⟩
  | error e => exact iff_of_false (by rintro ⟨⟩) (by rintro ⟨⟩)

/-- A double quote or a wildcard. -/
def isMark (c : Char) : Bool := c == '"' || isWildcard c

namespace Settings

variable {κ : Type}

/-- The settings hold no character that could not go into a name. -/
theorem avoids (settings : Settings) : Avoids barsDomain settings.domain.val ∧
    Avoids barsValue settings.statisticsType.val :=
  ⟨settings.domain.property.avoids, fun c hc =>
    (Bool.or_eq_false_iff.1 (settings.statisticsType.property.avoids c hc)).1⟩

/-- A name is composed of values that can be written. -/
theorem nameOf_of_isWritable {uri label : Value κ} (hu : uri.isWritable = true)
    (hl : label.isWritable = true) (settings : Settings) :
    settings.nameOf uri label = (statisticsName settings.domain.val settings.statisticsType.val
      uri.sanitized label.sanitized).mapError .unusableCacheName := by
  rw [nameOf, Value.written_of_isWritable hu, Value.written_of_isWritable hl]
  rfl

/-- No name is composed of a value that cannot be written. -/
theorem nameOf_of_not_isWritable {uri label : Value κ}
    (h : ¬ (uri.isWritable = true ∧ label.isWritable = true)) (settings : Settings) :
    settings.nameOf uri label = .error .unwritable := by
  rw [nameOf]
  cases hu : uri.isWritable with
  | false =>
    rw [Value.written_of_not_isWritable hu]
    rfl
  | true =>
    have hl : label.isWritable = false := by simpa [hu] using h
    rw [Value.written_of_isWritable hu, Value.written_of_not_isWritable hl]
    rfl

/-- The name that is composed under admissible settings. -/
theorem nameOf_eq_ok_iff {settings : Settings} {uri label : Value κ} {n : ObjectName} :
    settings.nameOf uri label = .ok n ↔
      (uri.isWritable = true ∧ label.isWritable = true) ∧
        ('"' ∉ uri.plain.toList ∧ '"' ∉ label.plain.toList) ∧ n.domain = settings.domain.val ∧
          n.properties = [("Cache", label.sanitized), ("CacheManager", uri.sanitized),
            ("type", settings.statisticsType.val)] := by
  by_cases h : uri.isWritable = true ∧ label.isWritable = true
  · rw [nameOf_of_isWritable h.1 h.2, mapError_eq_ok_iff, statisticsName_eq_ok_iff,
      uri.avoids_barsValue_sanitized_iff, label.avoids_barsValue_sanitized_iff]
    simp only [settings.avoids, h, true_and, and_self]
  · rw [nameOf_of_not_isWritable h]
    simp [h]

/-- Under admissible settings a name is composed exactly if the address and the cache name can be
written and neither holds a double quote. -/
theorem exists_nameOf_iff (settings : Settings) (uri label : Value κ) :
    (∃ n, settings.nameOf uri label = .ok n) ↔
      (uri.isWritable = true ∧ label.isWritable = true) ∧
        '"' ∉ uri.plain.toList ∧ '"' ∉ label.plain.toList := by
  by_cases h : uri.isWritable = true ∧ label.isWritable = true
  · simp only [nameOf_of_isWritable h.1 h.2, mapError_eq_ok_iff, exists_statisticsName_iff,
      uri.avoids_barsValue_sanitized_iff, label.avoids_barsValue_sanitized_iff, settings.avoids,
      true_and, h, and_self]
  · rw [nameOf_of_not_isWritable h]
    simp [h]

/-- A name that values which can be written do not compose is unusable. -/
theorem exists_unusable_of_nameOf {settings : Settings} {uri label : Value κ} {f : Fault}
    (hu : uri.isWritable = true) (hl : label.isWritable = true)
    (h : settings.nameOf uri label = .error f) : ∃ unusable, f = .unusableCacheName unusable := by
  rw [nameOf_of_isWritable hu hl] at h
  cases composed : statisticsName settings.domain.val settings.statisticsType.val uri.sanitized
      label.sanitized with
  | ok n =>
    rw [composed] at h
    cases h
  | error unusable =>
    rw [composed] at h
    exact ⟨unusable, (Except.error.inj h).symm⟩

/-- The statistics type holds no wildcard, so a name composed of sanitized values is a pattern
exactly if one of the values holds a wildcard. -/
theorem isPattern_of_sanitized {settings : Settings} {uri label : Value κ} {n : ObjectName}
    (h : statisticsName settings.domain.val settings.statisticsType.val uri.sanitized
      label.sanitized = .ok n) :
    n.isPattern = (label.plain.toList.any isWildcard || uri.plain.toList.any isWildcard) := by
  have type : settings.statisticsType.val.toList.any isWildcard = false := by
    rw [List.any_eq_false]
    intro c hc
    simpa using (Bool.or_eq_false_iff.1 (settings.statisticsType.property.avoids c hc)).2
  rw [isPattern_of_statisticsName h, type, label.any_isWildcard_sanitized,
    uri.any_isWildcard_sanitized, Bool.or_false]

theorem isPattern_of_nameOf {settings : Settings} {uri label : Value κ} {n : ObjectName}
    (h : settings.nameOf uri label = .ok n) :
    n.isPattern = (label.plain.toList.any isWildcard || uri.plain.toList.any isWildcard) := by
  obtain ⟨⟨hu, hl⟩, -⟩ := nameOf_eq_ok_iff.1 h
  rw [nameOf_of_isWritable hu hl, mapError_eq_ok_iff] at h
  exact isPattern_of_sanitized h

variable {settings : Settings} {uri name : String} {n : ObjectName}

/-- The properties of the name under which the statistics of a cache are looked for. -/
def propertiesOf (settings : Settings) (uri name : String) : List Property :=
  statisticsProperties settings.statisticsType.val (sanitizeText uri) (sanitizeText name)

/-- For texts without marks a name is composed, and it is no pattern. -/
theorem exists_nameOf_of_avoids (settings : Settings) (huri : Avoids isMark uri)
    (hname : Avoids isMark name) :
    ∃ n, settings.nameOf (.text uri : Value κ) (.text name) = .ok n ∧ n.isPattern = false := by
  have unquoted : ∀ {s : String}, Avoids isMark s → '"' ∉ s.toList := by
    intro s h hq
    exact absurd (h _ hq) (by decide)
  have untamed : ∀ {s : String}, Avoids isMark s → s.toList.any isWildcard = false := by
    intro s h
    rw [List.any_eq_false]
    intro c hc
    simpa using (Bool.or_eq_false_iff.1 (h c hc)).2
  obtain ⟨n, hn⟩ := (settings.exists_nameOf_iff (.text uri : Value κ) (.text name)).2
    ⟨⟨rfl, rfl⟩, unquoted huri, unquoted hname⟩
  refine ⟨n, hn, ?_⟩
  rw [isPattern_of_nameOf hn, Value.plain_text, Value.plain_text, untamed huri, untamed hname]
  rfl

/-- The name that is composed has the domain of the settings and the three properties. -/
theorem parts_of_nameOf (h : settings.nameOf (.text uri : Value κ) (.text name) = .ok n) :
    n.domain = settings.domain.val ∧ n.properties.Perm (settings.propertiesOf uri name) := by
  rw [nameOf_of_isWritable rfl rfl, mapError_eq_ok_iff, Value.sanitized_text,
    Value.sanitized_text] at h
  obtain ⟨-, domain, -⟩ := statisticsName_eq_ok_iff.1 h
  exact ⟨domain, properties_perm_of_statisticsName h⟩

/-- The name that is composed is read from every text that orders its three properties. -/
theorem parse_of_nameOf (h : settings.nameOf (.text uri : Value κ) (.text name) = .ok n)
    {ps : List Property} (order : ps.Perm (settings.propertiesOf uri name)) :
    parse (written settings.domain.val ps) = .ok n := by
  rw [nameOf_of_isWritable rfl rfl, mapError_eq_ok_iff, Value.sanitized_text,
    Value.sanitized_text, statisticsName_eq_ok_iff_ofProperties] at h
  exact parse_written_of_perm order.symm h

end Settings

end CacheTelemetry
