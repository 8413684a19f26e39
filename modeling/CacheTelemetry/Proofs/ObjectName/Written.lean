import CacheTelemetry.ObjectName.Parse

/-!
# The written forms of an object name

A name can be written with its properties in any order. `written domain ps` is the text with the
properties in the order of `ps`; the canonical text is one of these.

* `parse_written`: **reading a written form is building the name from its parts**, faults included,
  as long as the separators do not stand where they would be mistaken.
* `ofProperties_of_perm`: the order in which the properties are given is immaterial to the name.
* `parse_written_of_perm` puts both together: every order of the properties of a name is read as
  that name.
-/

namespace CacheTelemetry.ObjectName

/-! ### The order of the properties -/

/-- Properties with different keys are sorted alike from whatever order they come in. -/
theorem sortByKey_eq_of_perm {ps qs : List Property} (h : ps.Perm qs)
    (nodup : (ps.map Prod.fst).Nodup) : sortByKey ps = sortByKey qs := by
  have nodup' : (qs.map Prod.fst).Nodup := (h.map Prod.fst).nodup_iff.1 nodup
  have perm : (sortByKey ps).Perm (sortByKey qs) :=
    ((sortByKey_perm ps).trans h).trans (sortByKey_perm qs).symm
  refine perm.eq_of_pairwise ?_ (sortByKey_keysIncrease nodup) (sortByKey_keysIncrease nodup')
  intro p q _ _ hpq hqp
  exact absurd hqp (String.lt_asymm hpq)

/-- The rules on a list of properties do not depend on their order. -/
theorem Admissible.perm {domain : String} {ps qs : List Property} (a : Admissible domain ps)
    (h : ps.Perm qs) : Admissible domain qs where
  domain_avoids := a.domain_avoids
  ne_nil := fun e => a.ne_nil (List.Perm.eq_nil (e ▸ h))
  isProperty := fun p hp => a.isProperty p (h.mem_iff.2 hp)
  keys_nodup := (h.map Prod.fst).nodup_iff.1 a.keys_nodup

/-- The name does not depend on the order in which its properties are given. -/
theorem ofProperties_of_perm {domain : String} {ps qs : List Property} {n : ObjectName}
    (h : ps.Perm qs) (hn : ofProperties domain ps = .ok n) : ofProperties domain qs = .ok n := by
  obtain ⟨a, hd, hp⟩ := ofProperties_eq_ok_iff.1 hn
  exact ofProperties_eq_ok_iff.2 ⟨a.perm h, hd, hp.trans (sortByKey_eq_of_perm h a.keys_nodup)⟩

/-! ### Reading what is written -/

/-- The text of a name with its properties in a given order. -/
def written (domain : String) (ps : List Property) : String :=
  domain ++ ":" ++ ",".intercalate (ps.map propertyText)

theorem toList_propertyText (p : Property) :
    (propertyText p).toList = p.1.toList ++ '=' :: p.2.toList := by
  simp [propertyText]

/-- Texts between commas, character by character. -/
theorem toList_commas (l : List String) :
    (",".intercalate l).toList = Text.joined ',' (l.map String.toList) := by
  induction l with
  | nil => simp [Text.joined]
  | cons s rest ih =>
    cases rest with
    | nil => simp [Text.joined]
    | cons t rest => simp [String.intercalate_cons_cons, Text.joined, ih]

/-- A written property is read as its key and its value. -/
theorem readProperty_propertyText {p : Property} (h : '=' ∉ p.1.toList) :
    readProperty (propertyText p).toList = .ok p := by
  have cut : Text.cut? '=' (propertyText p).toList = some (p.1.toList, p.2.toList) :=
    Text.cut?_eq_some_iff.2 ⟨toList_propertyText p, h⟩
  simp [readProperty, cut]

/-- Written properties are read one by one. -/
theorem mapM_readProperty {ps : List Property} (h : ∀ p ∈ ps, '=' ∉ p.1.toList) :
    (ps.map fun p => (propertyText p).toList).mapM readProperty = .ok ps := by
  induction ps with
  | nil => rfl
  | cons p rest ih =>
    rw [List.map_cons, List.mapM_cons, readProperty_propertyText (h p (by simp)),
      ih fun q hq => h q (List.mem_cons_of_mem _ hq)]
    rfl

/-- A written form is taken apart into what it was written from. -/
theorem readParts_written {domain : String} {ps : List Property} (ne : ps ≠ [])
    (hd : ':' ∉ domain.toList) (keys : ∀ p ∈ ps, '=' ∉ p.1.toList)
    (items : ∀ p ∈ ps, ',' ∉ (propertyText p).toList) :
    readParts (written domain ps) = .ok (domain, ps) := by
  have rest : (",".intercalate (ps.map propertyText)).toList =
      Text.joined ',' (ps.map fun p => (propertyText p).toList) := by
    rw [toList_commas, List.map_map]
    rfl
  have cut : Text.cut? ':' (written domain ps).toList =
      some (domain.toList, Text.joined ',' (ps.map fun p => (propertyText p).toList)) := by
    refine Text.cut?_eq_some_iff.2 ⟨?_, hd⟩
    simp [written, rest]
  have pieces : Text.pieces ',' (Text.joined ',' (ps.map fun p => (propertyText p).toList)) =
      ps.map fun p => (propertyText p).toList := by
    refine Text.pieces_joined (by simpa using ne) fun q hq => ?_
    obtain ⟨p, hp, rfl⟩ := List.mem_map.1 hq
    exact items p hp
  -- a property is never written as the empty text, so something follows the colon
  have ne_nil : Text.joined ',' (ps.map fun p => (propertyText p).toList) ≠ [] := by
    intro e
    rw [e] at pieces
    obtain ⟨p, rest, rfl⟩ := List.exists_cons_of_ne_nil ne
    simp [Text.pieces, toList_propertyText] at pieces
  rw [readParts, cut]
  split
  · simp_all
  · simp_all
  · rename_i d r e
    obtain ⟨rfl, rfl⟩ := Prod.mk.inj (Option.some.inj e)
    simp only [pieces, mapM_readProperty keys, Except.map, String.ofList_toList]

/-- Reading a written form is building the name from its parts. -/
theorem parse_written {domain : String} {ps : List Property} (ne : ps ≠ [])
    (hd : ':' ∉ domain.toList) (keys : ∀ p ∈ ps, '=' ∉ p.1.toList)
    (items : ∀ p ∈ ps, ',' ∉ (propertyText p).toList) :
    parse (written domain ps) = ofProperties domain ps := by
  rw [parse, readParts_written ne hd keys items]
  rfl

/-- In admissible parts no separator stands where it would be mistaken. -/
theorem Admissible.separated {domain : String} {ps : List Property} (a : Admissible domain ps) :
    ':' ∉ domain.toList ∧ (∀ p ∈ ps, '=' ∉ p.1.toList) ∧
      ∀ p ∈ ps, ',' ∉ (propertyText p).toList := by
  refine ⟨fun h => ?_, fun p hp h => ?_, fun p hp h => ?_⟩
  · exact absurd (a.domain_avoids _ h) (by decide)
  · exact absurd ((a.isProperty p hp).key_avoids _ h) (by decide)
  · rw [toList_propertyText, List.mem_append, List.mem_cons] at h
    rcases h with h | h | h
    · exact absurd ((a.isProperty p hp).key_avoids _ h) (by decide)
    · exact absurd h (by decide)
    · exact absurd ((a.isProperty p hp).value_avoids _ h) (by decide)

/-- The written form of admissible parts is taken apart into them. -/
theorem Admissible.readParts_written {domain : String} {ps : List Property}
    (a : Admissible domain ps) : readParts (written domain ps) = .ok (domain, ps) := by
  obtain ⟨hd, keys, items⟩ := a.separated
  exact ObjectName.readParts_written a.ne_nil hd keys items

/-- The written form of admissible parts is read as the name built from them. -/
theorem Admissible.parse_written {domain : String} {ps : List Property}
    (a : Admissible domain ps) : parse (written domain ps) = ofProperties domain ps := by
  obtain ⟨hd, keys, items⟩ := a.separated
  exact ObjectName.parse_written a.ne_nil hd keys items

/-- Every order of the properties of a name is read as that name. -/
theorem parse_written_of_perm {domain : String} {ps qs : List Property} {n : ObjectName}
    (h : ps.Perm qs) (hn : ofProperties domain ps = .ok n) : parse (written domain qs) = .ok n := by
  have a : Admissible domain ps := (ofProperties_eq_ok_iff.1 hn).1
  rw [(a.perm h).parse_written, ofProperties_of_perm h hn]

end CacheTelemetry.ObjectName
