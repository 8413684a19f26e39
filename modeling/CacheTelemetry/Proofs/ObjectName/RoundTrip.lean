import CacheTelemetry.Proofs.ObjectName.Written

/-!
# From names to texts and back

The canonical text of a name escapes nothing, and yet nothing is lost in it: **reading the canonical
text of a name gives the name back**, and so does reading any other text that writes its properties
in some order (`canonical_round_trip`). Hence names with the same canonical text are equal, and of
all the texts of a name the canonical one is singled out as the text that canonicalising a text
leaves as it is.

A name of the type is always one that is built from a domain and properties, namely from its own
(`ofProperties_properties`); so what is said of all names holds however a name was made.
-/

namespace CacheTelemetry.ObjectName

/-- The canonical text of the name that a text is read as. -/
def canonicalText (text : String) : Except Malformed String := (parse text).map canonical

variable {n m : ObjectName} {ps : List Property}

/-- Keys that increase are pairwise different. -/
theorem KeysIncrease.nodup (h : KeysIncrease ps) : (ps.map Prod.fst).Nodup := by
  refine List.pairwise_map.2 (h.imp fun {p q} hlt heq => ?_)
  rw [heq] at hlt
  exact String.lt_irrefl _ hlt

/-- Properties in the order of their keys are left as they are. -/
theorem sortByKey_eq_self (h : KeysIncrease ps) : sortByKey ps = ps := by
  refine (sortByKey_perm ps).eq_of_pairwise ?_ (sortByKey_keysIncrease h.nodup) h
  intro p q _ _ hpq hqp
  exact absurd hqp (String.lt_asymm hpq)

/-- The parts of a name keep the rules. -/
theorem admissible (n : ObjectName) : Admissible n.domain n.properties :=
  ⟨n.domain_avoids, n.properties_ne_nil, n.isProperty, n.keysIncrease.nodup⟩

/-- A name is built from its own parts. -/
theorem ofProperties_properties (n : ObjectName) : ofProperties n.domain n.properties = .ok n :=
  ofProperties_eq_ok_iff.2 ⟨n.admissible, rfl, (sortByKey_eq_self n.keysIncrease).symm⟩

/-- The canonical text is the written form with the properties as the name has them. -/
theorem canonical_eq_written (n : ObjectName) : n.canonical = written n.domain n.properties := rfl

/-- The canonical text of a name is read as the name. -/
theorem parse_canonical (n : ObjectName) : parse n.canonical = .ok n := by
  rw [canonical_eq_written, n.admissible.parse_written, ofProperties_properties]

/-- Names with the same canonical text are equal. -/
theorem canonical_inj (h : n.canonical = m.canonical) : n = m := by
  have read : (.ok n : Except Malformed ObjectName) = .ok m := by
    rw [← parse_canonical n, h, parse_canonical m]
  exact Except.ok.inj read

/-- The canonical text of a name is its own canonical text. -/
theorem canonicalText_canonical (n : ObjectName) :
    canonicalText n.canonical = .ok n.canonical := by
  rw [canonicalText, parse_canonical]
  rfl

/-- **Texts of a name are read as that name**: its canonical text, and all others that write its
properties in some order. The canonical text of a text that is read is read as the same name and is
its own canonical text, and different names have different canonical texts. -/
theorem canonical_round_trip :
    (∀ n : ObjectName, parse n.canonical = .ok n) ∧
      (∀ domain ps n, ofProperties domain ps = .ok n →
        ∀ qs : List Property, qs.Perm ps → parse (written domain qs) = .ok n) ∧
      (∀ text n, parse text = .ok n →
        parse n.canonical = parse text ∧ canonicalText n.canonical = .ok n.canonical) ∧
      Function.Injective canonical := by
  refine ⟨parse_canonical, ?_, ?_, fun n m h => canonical_inj h⟩
  · intro domain ps n hn qs order
    exact parse_written_of_perm order.symm hn
  · intro text n hn
    exact ⟨(parse_canonical n).trans hn.symm, canonicalText_canonical n⟩

/-- A name whose domain holds separators of properties, with a value that is empty. -/
theorem canonical_round_trip_separators :
    ∃ n, parse "a=,b:y=*,x=" = .ok n ∧ n.canonical = "a=,b:x=,y=*" ∧
      parse "a=,b:x=,y=*" = .ok n ∧ canonicalText "a=,b:x=,y=*" = .ok "a=,b:x=,y=*" := by
  obtain ⟨n, hn⟩ : ∃ n, ofProperties "a=,b" [("x", ""), ("y", "*")] = .ok n :=
    ⟨ofAdmissible (firstFault_eq_none_iff.1 (by decide)), rfl⟩
  have order : [("y", "*"), ("x", "")].Perm [("x", ""), ("y", "*")] := List.Perm.swap _ _ _
  have text : n.canonical = "a=,b:x=,y=*" := by
    rw [canonical_eq_written, (ofProperties_eq_ok_iff.1 hn).2.1, (ofProperties_eq_ok_iff.1 hn).2.2]
    decide
  obtain ⟨-, reordered, again, -⟩ := canonical_round_trip
  have read : parse "a=,b:y=*,x=" = .ok n := reordered _ _ n hn _ order
  obtain ⟨same, fixed⟩ := again _ n read
  rw [text] at same fixed
  exact ⟨n, read, text, same.trans read, fixed⟩

end CacheTelemetry.ObjectName
