import CacheTelemetry.Fault.Basic
import CacheTelemetry.Proofs.ObjectName.Written

/-!
# The grammar of object names

A text is an object name if it is a domain, a colon and at least one property, the properties being
keys and values with an equals sign between the two and commas between properties. `Writes` is this
grammar, with the characters that each part must not hold spelled out.

Reading works in two phases: the text is taken apart at its separators, and the parts are checked.
**What is accepted is the grammar, exactly** (`parse_accepts_grammar`): the phases accept no text
that is not written by it and refuse none that is, a text is written in one way only, and the name
that is read has the domain and the properties that were written.

The first phase is described without the second: a text that comes apart is the written form of its
parts (`eq_written_of_readParts`), whatever these hold.
-/

namespace CacheTelemetry.ObjectName

/-- A text is a domain, a colon, and properties `key=value` with commas between them. -/
structure Writes (text domain : String) (ps : List Property) : Prop where
  text_eq : text = written domain ps
  domain : ∀ c ∈ domain.toList, c ∉ [':', '\n']
  ne_nil : ps ≠ []
  key_ne_empty : ∀ p ∈ ps, p.1 ≠ ""
  key : ∀ p ∈ ps, ∀ c ∈ p.1.toList, c ∉ [',', '=', ':', '"', '*', '?', '\n']
  value : ∀ p ∈ ps, ∀ c ∈ p.2.toList, c ∉ [',', '=', ':', '"', '\n']
  keys_nodup : (ps.map Prod.fst).Nodup

variable {text domain domain' : String} {ps ps' : List Property} {n : ObjectName}

/-- The grammar asks of the parts what the rules for the parts of a name ask. -/
theorem writes_iff : Writes text domain ps ↔ text = written domain ps ∧ Admissible domain ps := by
  have hdomain : ∀ c, barsDomain c = false ↔ c ∉ [':', '\n'] := by
    simp [barsDomain]
  have hvalue : ∀ c, barsValue c = false ↔ c ∉ [',', '=', ':', '"', '\n'] := by
    simp [barsValue, and_assoc]
  have hkey : ∀ c, barsKey c = false ↔ c ∉ [',', '=', ':', '"', '*', '?', '\n'] := by
    intro c
    simp only [barsKey, Bool.or_eq_false_iff, hvalue, isWildcard, beq_eq_false_iff_ne,
      List.mem_cons, List.not_mem_nil, or_false, not_or]
    grind
  constructor
  · intro w
    refine ⟨w.text_eq, fun c hc => (hdomain c).2 (w.domain c hc), w.ne_nil, ?_, w.keys_nodup⟩
    intro p hp
    exact ⟨w.key_ne_empty p hp, fun c hc => (hkey c).2 (w.key p hp c hc),
      fun c hc => (hvalue c).2 (w.value p hp c hc)⟩
  · rintro ⟨htext, a⟩
    exact
      { text_eq := htext
        domain := fun c hc => (hdomain c).1 (a.domain_avoids c hc)
        ne_nil := a.ne_nil
        key_ne_empty := fun p hp => (a.isProperty p hp).key_ne_empty
        key := fun p hp c hc => (hkey c).1 ((a.isProperty p hp).key_avoids c hc)
        value := fun p hp c hc => (hvalue c).1 ((a.isProperty p hp).value_avoids c hc)
        keys_nodup := a.keys_nodup }

/-! ### Taking a text apart -/

/-- An item that is read as a property is how the property is written. -/
theorem eq_propertyText_of_readProperty {item : List Char} {p : Property}
    (h : readProperty item = .ok p) : item = (propertyText p).toList := by
  rw [readProperty] at h
  split at h
  · cases h
  · rename_i key value hcut
    cases h
    obtain ⟨hitem, -⟩ := Text.cut?_eq_some_iff.1 hcut
    rw [toList_propertyText, String.toList_ofList, String.toList_ofList, hitem]

/-- Items that are read as properties are how these are written. -/
theorem eq_map_of_mapM_readProperty {items : List (List Char)}
    (h : items.mapM readProperty = .ok ps) : items = ps.map fun p => (propertyText p).toList := by
  induction items generalizing ps with
  | nil =>
    cases h
    rfl
  | cons item rest ih =>
    rw [List.mapM_cons] at h
    rcases hitem : readProperty item with fault | p
    · rw [hitem] at h
      cases h
    rcases hrest : rest.mapM readProperty with fault | qs
    · rw [hitem, hrest] at h
      cases h
    rw [hitem, hrest] at h
    cases h
    rw [List.map_cons, ← eq_propertyText_of_readProperty hitem, ← ih hrest]

/-- A text that comes apart is the written form of its parts. -/
theorem eq_written_of_readParts (h : readParts text = .ok (domain, ps)) :
    text = written domain ps := by
  rw [readParts] at h
  split at h
  · cases h
  · cases h
  · rename_i d rest _ hcut
    rcases hitems : (Text.pieces ',' rest).mapM readProperty with fault | qs
    · rw [hitems] at h
      cases h
    rw [hitems] at h
    cases h
    obtain ⟨htext, -⟩ := Text.cut?_eq_some_iff.1 hcut
    have hrest : rest = (",".intercalate (ps.map propertyText)).toList := by
      rw [toList_commas, List.map_map, ← Text.joined_pieces ',' rest,
        eq_map_of_mapM_readProperty hitems]
      rfl
    rw [← String.toList_inj, htext, hrest]
    simp [written]

/-! ### Reading -/

/-- A text is written in one way only. -/
theorem Writes.unique (w : Writes text domain ps) (w' : Writes text domain' ps') :
    domain' = domain ∧ ps' = ps := by
  have apart : ∀ {d qs}, Writes text d qs → readParts text = .ok (d, qs) := by
    intro d qs hw
    obtain ⟨rfl, a⟩ := writes_iff.1 hw
    exact a.readParts_written
  have same := (apart w').symm.trans (apart w)
  cases same
  exact ⟨rfl, rfl⟩

/-- A text is read as a name exactly if the grammar writes it with the parts of that name. -/
theorem parse_eq_ok_iff :
    parse text = .ok n ↔ ∃ ps, Writes text n.domain ps ∧ n.properties = sortByKey ps := by
  constructor
  · intro h
    rw [parse] at h
    rcases hparts : readParts text with fault | ⟨domain, ps⟩
    · rw [hparts] at h
      cases h
    rw [hparts] at h
    obtain ⟨a, hdomain, hproperties⟩ := ofProperties_eq_ok_iff.1 h
    refine ⟨ps, writes_iff.2 ⟨?_, ?_⟩, hproperties⟩
    · rw [hdomain]
      exact eq_written_of_readParts hparts
    · rwa [hdomain]
  · rintro ⟨ps, w, hproperties⟩
    obtain ⟨htext, a⟩ := writes_iff.1 w
    rw [htext, a.parse_written]
    exact ofProperties_eq_ok_iff.2 ⟨a, rfl, hproperties⟩

/-- **A text is accepted exactly if the grammar writes it.** It is then written in one way only, and
the name that is read has the domain and the properties that are written. Every other text is
malformed. -/
theorem parse_accepts_grammar (text : String) :
    ((∃ n, parse text = .ok n) ↔ ∃ domain ps, Writes text domain ps) ∧
      (∀ domain ps, Writes text domain ps →
        (∀ domain' ps', Writes text domain' ps' → domain' = domain ∧ ps' = ps) ∧
        ∃ n, parse text = .ok n ∧ n.domain = domain ∧ n.properties.Perm ps) ∧
      ((¬ ∃ domain ps, Writes text domain ps) →
        ∃ fault, parse text = .error fault ∧ (Fault.malformed fault).kind = .malformedName) := by
  have accepted : ∀ {domain ps}, Writes text domain ps →
      ∃ n, parse text = .ok n ∧ n.domain = domain ∧ n.properties.Perm ps := by
    intro domain ps w
    obtain ⟨-, a⟩ := writes_iff.1 w
    exact ⟨ofAdmissible a, parse_eq_ok_iff.2 ⟨ps, w, rfl⟩, rfl, sortByKey_perm ps⟩
  have written_of_ok : ∀ {n}, parse text = .ok n → ∃ domain ps, Writes text domain ps := by
    intro n hn
    obtain ⟨ps, w, -⟩ := parse_eq_ok_iff.1 hn
    exact ⟨n.domain, ps, w⟩
  refine ⟨⟨fun ⟨n, hn⟩ => written_of_ok hn, ?_⟩, ?_, ?_⟩
  · rintro ⟨domain, ps, w⟩
    obtain ⟨n, hn, -⟩ := accepted w
    exact ⟨n, hn⟩
  · intro domain ps w
    exact ⟨fun domain' ps' w' => w.unique w', accepted w⟩
  · intro unwritten
    rcases hread : parse text with fault | n
    · exact ⟨fault, rfl, rfl⟩
    · exact absurd (written_of_ok hread) unwritten

/-- A domain with separators of properties, a value that is empty and one with a wildcard; and a
list of properties that ends with a comma. -/
theorem parse_accepts_grammar_separators :
    (∃ n, parse "a=,b:y=*,x=" = .ok n ∧ n.domain = "a=,b" ∧
      n.properties.Perm [("y", "*"), ("x", "")]) ∧
    ¬ ∃ domain ps, Writes "d:x=1," domain ps := by
  have admissible : Admissible "a=,b" [("y", "*"), ("x", "")] :=
    firstFault_eq_none_iff.1 (by decide)
  have w : Writes "a=,b:y=*,x=" "a=,b" [("y", "*"), ("x", "")] := writes_iff.2 ⟨rfl, admissible⟩
  constructor
  · exact ((parse_accepts_grammar "a=,b:y=*,x=").2.1 _ _ w).2
  · intro h
    obtain ⟨n, hn⟩ := (parse_accepts_grammar "d:x=1,").1.2 h
    have refused : (parse "d:x=1,").isOk = false := by decide
    rw [hn] at refused
    cases refused

end CacheTelemetry.ObjectName
