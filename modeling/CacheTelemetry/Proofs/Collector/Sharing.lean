import CacheTelemetry.Proofs.Collector.Enquiry
import CacheTelemetry.Proofs.ObjectName.Composed
import CacheTelemetry.Session.Run

/-!
# Caches that share statistics

Sanitizing makes points of the separators, so that a separator can no longer be told from a point or
from another separator. Nothing else is lost: **two texts are sanitized to the same text exactly if
they look alike** (`sanitizeText_eq_iff`), place by place.

Composing keeps its arguments apart, so two caches go by one object name exactly if they agree in
each of the four arguments, the last two after sanitizing (`nameOf_eq_iff`). A visit puts no
question about any other name. Hence `sharing_iff`: **caches that look alike in this sense are
looked up under one name, and no others are**, whatever their collectors and the states of these.
-/

namespace CacheTelemetry

/-! ### Texts that look alike -/

/-- The characters that are points once they are sanitized. -/
def pointLike : List Char := [',', ':', '=', '\n', '.']

/-- Texts of one length that in each place have the same character or point-like ones. -/
structure LookAlike (a b : String) : Prop where
  length_eq : a.length = b.length
  place : ∀ i (ha : i < a.toList.length) (hb : i < b.toList.length),
    a.toList[i] = b.toList[i] ∨ a.toList[i] ∈ pointLike ∧ b.toList[i] ∈ pointLike

/-- A character is made a point, or is one, exactly if it is point-like. -/
theorem sanitizeChar_eq_point_iff {c : Char} : sanitizeChar c = '.' ↔ c ∈ pointLike := by
  have split_point : c ∈ pointLike ↔ isSeparator c = true ∨ c = '.' := by
    simp [pointLike, isSeparator, or_assoc]
  rw [sanitizeChar, split_point]
  split
  · rename_i separator
    simp [separator]
  · rename_i kept
    simp [kept]

/-- The characters that are not point-like are kept. -/
theorem sanitizeChar_eq_self {c : Char} (h : c ∉ pointLike) : sanitizeChar c = c := by
  rw [sanitizeChar, if_neg]
  intro separator
  exact h (sanitizeChar_eq_point_iff.1 (if_pos separator))

/-- Sanitizing takes only point-like characters for one another. -/
theorem sanitizeChar_eq_iff {a b : Char} :
    sanitizeChar a = sanitizeChar b ↔ a = b ∨ a ∈ pointLike ∧ b ∈ pointLike := by
  constructor
  · intro same
    have both : a ∈ pointLike ↔ b ∈ pointLike := by
      rw [← sanitizeChar_eq_point_iff, same, sanitizeChar_eq_point_iff]
    by_cases ha : a ∈ pointLike
    · exact .inr ⟨ha, both.1 ha⟩
    · left
      calc a = sanitizeChar a := (sanitizeChar_eq_self ha).symm
        _ = sanitizeChar b := same
        _ = b := sanitizeChar_eq_self (mt both.2 ha)
  · rintro (rfl | ⟨ha, hb⟩)
    · rfl
    · rw [sanitizeChar_eq_point_iff.2 ha, sanitizeChar_eq_point_iff.2 hb]

/-- Texts are sanitized to the same text exactly if they look alike. -/
theorem sanitizeText_eq_iff {a b : String} : sanitizeText a = sanitizeText b ↔ LookAlike a b := by
  have chars : sanitizeText a = sanitizeText b ↔
      a.toList.map sanitizeChar = b.toList.map sanitizeChar := by
    rw [← String.toList_inj, sanitizeText, sanitizeText, String.toList_map, String.toList_map]
  rw [chars, List.ext_getElem_iff]
  simp only [List.length_map, List.getElem_map, sanitizeChar_eq_iff, String.length_toList]
  constructor
  · rintro ⟨length_eq, place⟩
    exact ⟨length_eq, place⟩
  · rintro ⟨length_eq, place⟩
    exact ⟨length_eq, place⟩

/-! ### Names that are composed alike -/

/-- Two addresses and two cache names, each pair under settings of its own, that agree in everything
that goes into a name. -/
structure ComposeAlike (settings settings' : Settings) (uri name uri' name' : String) : Prop where
  domain : settings.domain = settings'.domain
  statisticsType : settings.statisticsType = settings'.statisticsType
  uri : sanitizeText uri = sanitizeText uri'
  name : sanitizeText name = sanitizeText name'

/-- Names are equal exactly if they are composed alike. -/
theorem nameOf_eq_iff {κ : Type} {settings settings' : Settings} {uri name uri' name' : String}
    {n m : ObjectName} (hn : settings.nameOf (.text uri : Value κ) (.text name) = .ok n)
    (hm : settings'.nameOf (.text uri' : Value κ) (.text name') = .ok m) :
    n = m ↔ ComposeAlike settings settings' uri name uri' name' := by
  rw [Settings.nameOf_of_isWritable rfl rfl, mapError_eq_ok_iff, Value.sanitized_text,
    Value.sanitized_text] at hn hm
  rw [statisticsName_inj hn hm, ← Subtype.ext_iff, ← Subtype.ext_iff]
  constructor
  · rintro ⟨domain, type, uri_eq, name_eq⟩
    exact ⟨domain, type, uri_eq, name_eq⟩
  · rintro ⟨domain, type, uri_eq, name_eq⟩
    exact ⟨domain, type, uri_eq, name_eq⟩

namespace Collector

open Effect

variable {σ κ χ : Type} [BEq κ] {c d : Collector σ κ χ} {s t : σ}

/-- A cache whose manager has an address, as it is read from the state `s` to the state `t`; there
are no double quotes in the address and in the name of the cache. -/
structure Located (c : Collector σ κ χ) (cache : χ) (uri name : String) (s t : σ) : Prop where
  address : (c.managerUri cache).runFrom s = (.ok (.text uri), t)
  uri_unquoted : '"' ∉ uri.toList
  name_unquoted : '"' ∉ name.toList

/-- The visit of a located cache makes the calls of an enquiry about the name that the settings, the
address and the name of the cache compose. -/
theorem Located.exists_enquiry {cache : χ} {uri name : String}
    (located : c.Located cache uri name s t) :
    ∃ n, (c.settings t).nameOf (.text uri : Value κ) (.text name) = .ok n ∧
      (c.nameFor (.text name) cache).runFrom s = (.ok n, t) ∧
      Enquiry n (c.callsAbout (.text name, cache) s) := by
  obtain ⟨n, composed⟩ := ((c.settings t).exists_nameOf_iff (.text uri : Value κ) (.text name)).2
    ⟨⟨rfl, rfl⟩, located.uri_unquoted, located.name_unquoted⟩
  have named : (c.nameFor (.text name) cache).runFrom s = (.ok n, t) :=
    nameFor_eq_ok_iff.2 ⟨.text uri, located.address, composed⟩
  exact ⟨n, composed, named, (c.enquiry_callsAbout (.text name, cache) s).1 n t named⟩

/-- **Which caches share statistics.** Texts are sanitized to the same text exactly if they look
alike. Without double quotes every address and every cache name compose an object name, and two such
names are equal exactly if the domains, the statistics types, the sanitized addresses and the
sanitized cache names are. A visit asks the registry about the composed name only, so this is when
two visits look up the same statistics. -/
theorem sharing_iff :
    (∀ a b : String, sanitizeText a = sanitizeText b ↔ LookAlike a b) ∧
      (∀ (settings settings' : Settings) (uri name uri' name' : String),
        '"' ∉ uri.toList → '"' ∉ name.toList → '"' ∉ uri'.toList → '"' ∉ name'.toList →
        ∃ n m, settings.nameOf (.text uri : Value κ) (.text name) = .ok n ∧
          settings'.nameOf (.text uri' : Value κ) (.text name') = .ok m ∧
          (n = m ↔ ComposeAlike settings settings' uri name uri' name')) ∧
      ∀ (c d : Collector σ κ χ) (cache cache' : χ) (uri name uri' name' : String) (s t s' t' : σ),
        c.Located cache uri name s t → d.Located cache' uri' name' s' t' →
        ∃ n m, (c.nameFor (.text name) cache).runFrom s = (.ok n, t) ∧
          (d.nameFor (.text name') cache').runFrom s' = (.ok m, t') ∧
          Enquiry n (c.callsAbout (.text name, cache) s) ∧
          Enquiry m (d.callsAbout (.text name', cache') s') ∧
          (n = m ↔ ComposeAlike (c.settings t) (d.settings t') uri name uri' name') := by
  refine ⟨fun _ _ => sanitizeText_eq_iff, ?_, ?_⟩
  · intro settings settings' uri name uri' name' quri qname quri' qname'
    obtain ⟨n, hn⟩ := (settings.exists_nameOf_iff (.text uri : Value κ) (.text name)).2
      ⟨⟨rfl, rfl⟩, quri, qname⟩
    obtain ⟨m, hm⟩ := (settings'.exists_nameOf_iff (.text uri' : Value κ) (.text name')).2
      ⟨⟨rfl, rfl⟩, quri', qname'⟩
    exact ⟨n, m, hn, hm, nameOf_eq_iff hn hm⟩
  · intro c d cache cache' uri name uri' name' s t s' t' located located'
    obtain ⟨n, composed, named, enquiry⟩ := located.exists_enquiry
    obtain ⟨m, composed', named', enquiry'⟩ := located'.exists_enquiry
    exact ⟨n, m, named, named', enquiry, enquiry', nameOf_eq_iff composed composed'⟩

open Session in
/-- Three caches of one manager: a comma and a point in one place of the name, and a blank there. -/
def blurredWorld : World :=
  { (default : World) with
    caches := [⟨"comma", .text "a,b", .text "m:1"⟩, ⟨"point", .text "a.b", .text "m:1"⟩,
      ⟨"blank", .text "a b", .text "m:1"⟩]
    collectors := [⟨.main, 0, .ofList [(.text "a,b", 0), (.text "a.b", 1), (.text "a b", 2)]⟩] }

/-- The first two are looked up under one name, the third under another one; and an address with a
point in the place of the colon makes no difference. -/
theorem sharing_iff_blurredWorld :
    LookAlike "a,b" "a.b" ∧ ¬ LookAlike "a,b" "a b" ∧
      (∃ n, Settings.standard.nameOf (.text "m:1" : Value Session.Callable) (.text "a,b") = .ok n ∧
        Settings.standard.nameOf (.text "m.1" : Value Session.Callable) (.text "a.b") = .ok n) ∧
      ∃ n m : ObjectName, n ≠ m ∧
        Enquiry n ((Session.collector 0).callsAbout (.text "a,b", 0) blurredWorld) ∧
        Enquiry n ((Session.collector 0).callsAbout (.text "a.b", 1) blurredWorld) ∧
        Enquiry m ((Session.collector 0).callsAbout (.text "a b", 2) blurredWorld) := by
  obtain ⟨alike, names, visits⟩ := sharing_iff (σ := Session.World) (κ := Session.Callable)
    (χ := Session.Place)
  have comma : (Session.collector 0).Located 0 "m:1" "a,b" blurredWorld blurredWorld :=
    ⟨rfl, by decide, by decide⟩
  have point : (Session.collector 0).Located 1 "m:1" "a.b" blurredWorld blurredWorld :=
    ⟨rfl, by decide, by decide⟩
  have blank : (Session.collector 0).Located 2 "m:1" "a b" blurredWorld blurredWorld :=
    ⟨rfl, by decide, by decide⟩
  have same : sanitizeText "a,b" = sanitizeText "a.b" := by decide +kernel
  have different : sanitizeText "a,b" ≠ sanitizeText "a b" := by decide +kernel
  have address : sanitizeText "m:1" = sanitizeText "m.1" := by decide +kernel
  obtain ⟨l, l', composed, composed', equal⟩ := names .standard .standard "m:1" "a,b" "m.1" "a.b"
    (by decide) (by decide) (by decide) (by decide)
  obtain rfl : l = l' := equal.2 ⟨rfl, rfl, address, same⟩
  obtain ⟨n, n', named, -, first, second, shared⟩ := visits _ _ _ _ _ _ _ _ _ _ _ _ comma point
  obtain ⟨k, m, again, -, -, third, apart⟩ := visits _ _ _ _ _ _ _ _ _ _ _ _ comma blank
  obtain rfl : n = n' := shared.2 ⟨rfl, rfl, rfl, same⟩
  cases named.symm.trans again
  have ne : n ≠ m := fun e => different (apart.1 e).name
  exact ⟨(alike _ _).1 same, fun h => different ((alike _ _).2 h), ⟨l, composed, composed'⟩,
    n, m, ne, first, second, third⟩

end Collector

end CacheTelemetry
