import CacheTelemetry.Proofs.Collector.Labels
import CacheTelemetry.Proofs.Collector.Steady
import CacheTelemetry.Proofs.OrderedMap
import Mathlib.Data.List.Forall2

/-!
# Scrapes and the order of the roster

In a world that holds still each entry of the roster has a verdict of its own, whatever has been
visited before it (`Outlook.verdict`). A walk returns exactly if all verdicts are good, and its
readings are what the entries give, one by one (`Outlook.readings_eq_ok_iff`). So **the order of the
roster decides about the order of the samples and about nothing else** (`Steady.collect_perm`): of
two scrapes of the same entries both fail, perhaps with different faults, or both return, with the
same samples in each family.

Rosters whose keys are texts have the same entries if the same cache is found under each name
(`entries_perm_of_get?`).
-/

namespace CacheTelemetry

namespace Outlook

open Collector Effect

variable {κ χ : Type} [BEq κ] {o : Outlook κ χ} {entries entries' : List (Value κ × χ)}

/-- What becomes of an entry in a world that holds still. -/
def verdict (o : Outlook κ χ) (e : Value κ × χ) : Except Fault Visit :=
  (((o.still ∅).visit e.1 e.2).runFrom []).1

/-- The reading that an entry gives, if it is sampled. -/
def reading? (o : Outlook κ χ) (e : Value κ × χ) : Option (Reading κ) :=
  match o.verdict e with
  | .ok (.sampled counts) => some ⟨e.1, counts⟩
  | _ => none

/-- In a world that holds still a scrape does not look at its log. -/
theorem still_simulates (o : Outlook κ χ) :
    Simulates (o.still ∅) (o.still ∅) fun _ _ => True where
  settings _ := rfl
  managerUri _ _ := ⟨rfl, trivial⟩
  isRegistered _ _ := ⟨rfl, trivial⟩
  readAttribute _ n st :=
    ⟨by rw [runFrom_still_readAttribute, runFrom_still_readAttribute], trivial⟩
  wording _ _ := ⟨rfl, trivial⟩
  log _ _ := trivial

/-- A walk gives the reading of its first entry, and those of the others. -/
theorem readings_cons (o : Outlook κ χ) (e : Value κ × χ) (rest : List (Value κ × χ)) :
    o.readings (e :: rest) = o.verdict e >>= fun _ =>
      (o.readings rest).map fun readings => (o.reading? e).toList ++ readings := by
  rw [readings, visitAll, reading?]
  rcases visited : ((o.still ∅).visit e.1 e.2).runFrom [] with ⟨f | outcome, records⟩
  · rw [runFrom_bind_of_error visited, verdict, visited]
    rfl
  · have others : (((o.still ∅).visitAll rest).runFrom records).1 = o.readings rest :=
      (o.still_simulates.visitAll rest (s := records) (t := []) trivial).1
    rw [runFrom_bind_of_ok visited, verdict, visited, ← others]
    rcases walked : ((o.still ∅).visitAll rest).runFrom records with ⟨f | readings, records'⟩
    · rw [runFrom_bind_of_error walked]
      rfl
    · rw [runFrom_bind_of_ok walked]
      cases outcome <;> rfl

/-- A walk returns exactly if all its entries have good verdicts, and then with their readings. -/
theorem readings_eq_ok_iff {readings : List (Reading κ)} :
    o.readings entries = .ok readings ↔
      (∀ e ∈ entries, (o.verdict e).isOk = true) ∧ readings = entries.filterMap o.reading? := by
  induction entries generalizing readings with
  | nil =>
    have empty : o.readings [] = .ok [] := rfl
    rw [empty, Except.ok.injEq, eq_comm]
    simp
  | cons e rest ih =>
    rw [readings_cons]
    rcases bad : o.verdict e with f | outcome
    · refine iff_of_false (by rintro ⟨⟩) fun h => ?_
      have good := h.1 e List.mem_cons_self
      rw [bad] at good
      cases good
    · have given : (e :: rest).filterMap o.reading? =
          (o.reading? e).toList ++ rest.filterMap o.reading? := by
        rw [List.filterMap_cons]
        cases o.reading? e <;> rfl
      have good : (o.verdict e).isOk = true := by rw [bad]; rfl
      rw [given, List.forall_mem_cons, and_iff_right good]
      rcases walked : o.readings rest with f | readings'
      · refine iff_of_false (by rintro ⟨⟩) fun h => ?_
        rw [ih.2 ⟨h.1, rfl⟩] at walked
        cases walked
      · obtain ⟨all, rfl⟩ := ih.1 walked
        exact ⟨fun h => ⟨all, (Except.ok.inj h).symm⟩, fun h => congrArg Except.ok h.2.symm⟩

/-- Walks over the same entries in different orders both fail, or both return with the same
readings. -/
theorem readings_perm (perm : entries.Perm entries') :
    (∃ f f', o.readings entries = .error f ∧ o.readings entries' = .error f') ∨
      ∃ readings readings', o.readings entries = .ok readings ∧
        o.readings entries' = .ok readings' ∧ readings.Perm readings' := by
  by_cases good : ∀ e ∈ entries, (o.verdict e).isOk = true
  · have good' : ∀ e ∈ entries', (o.verdict e).isOk = true := fun e h => good e (perm.mem_iff.2 h)
    exact .inr ⟨_, _, readings_eq_ok_iff.2 ⟨good, rfl⟩, readings_eq_ok_iff.2 ⟨good', rfl⟩,
      perm.filterMap _⟩
  · -- a bad verdict stops either walk, at whatever place it comes
    left
    have fails : ∀ {l : List (Value κ × χ)}, l.Perm entries → ∃ f, o.readings l = .error f := by
      intro l same
      rcases walked : o.readings l with f | readings
      · exact ⟨f, rfl⟩
      · exact absurd (fun e h => (readings_eq_ok_iff.1 walked).1 e (same.mem_iff.2 h)) good
    obtain ⟨f, hf⟩ := fails .rfl
    obtain ⟨f', hf'⟩ := fails perm.symm
    exact ⟨f, f', hf, hf'⟩

end Outlook

/-- Families of one statistic with the same samples, each as often, in any order. -/
def Family.SameSamples {κ : Type} (f g : Family κ) : Prop :=
  f.statistic = g.statistic ∧ f.samples.Perm g.samples

/-- Two scrapes both fail, or both return the same samples in each family. -/
def AlikeUpToOrder {κ : Type} (x y : Except Fault (List (Family κ))) : Prop :=
  (∃ f g, x = .error f ∧ y = .error g) ∨
    ∃ families families', x = .ok families ∧ y = .ok families' ∧
      List.Forall₂ Family.SameSamples families families'

/-- The same readings in another order give the same samples in each family. -/
theorem Family.allOf_perm {κ : Type} {readings readings' : List (Reading κ)}
    (perm : readings.Perm readings') :
    List.Forall₂ SameSamples (allOf readings) (allOf readings') := by
  rw [allOf, allOf, List.forall₂_map_left_iff, List.forall₂_map_right_iff, List.forall₂_same]
  exact fun st _ => ⟨rfl, perm.map _⟩

namespace Collector

variable {σ κ χ : Type} [BEq κ] {c : Collector σ κ χ} {s t : σ}

/-- Scrapes of the same entries, to which everything looks the same, end alike up to the order. -/
theorem Steady.collect_perm (hs : c.Steady s) (ht : c.Steady t) (same : c.outlook s = c.outlook t)
    (perm : (c.roster s).entries.Perm (c.roster t).entries) :
    AlikeUpToOrder (c.collect.runFrom s).1 (c.collect.runFrom t).1 := by
  rw [hs.collect_eq, ht.collect_eq, same]
  rcases Outlook.readings_perm (o := c.outlook t) perm with
    ⟨f, g, failed, failed'⟩ | ⟨readings, readings', returned, returned', perm'⟩
  · rw [failed, failed']
    exact .inl ⟨f, g, rfl, rfl⟩
  · rw [returned, returned']
    exact .inr ⟨_, _, rfl, rfl, Family.allOf_perm perm'⟩

/-! ### Rosters with the same entries -/

/-- Every key of the roster is a text. -/
def HasTextKeys (m : Roster κ χ) : Prop := ∀ key ∈ m.keys, ∃ name, key = .text name

variable {m m' : Roster κ χ}

/-- The entries under texts are those that are found. -/
theorem mem_entries_iff {name : String} {x : χ} :
    (.text name, x) ∈ m.entries ↔ m.get? (.text name) = some x := by
  refine ⟨OrderedMap.get?_of_mem (beq_self_eq_true name), fun found => ?_⟩
  obtain ⟨⟨key, y⟩, mem, same, rfl⟩ := OrderedMap.exists_mem_of_get?_eq_some found
  rwa [show key = .text name from eq_text_of_beq same] at mem

theorem HasTextKeys.nodup_entries (texts : HasTextKeys m) : m.entries.Nodup := by
  refine m.distinct.imp_of_mem fun {a b} ha _ differ => ?_
  rintro rfl
  obtain ⟨name, key⟩ := texts a.1 (List.mem_map_of_mem ha)
  rw [key] at differ
  exact absurd (differ.symm.trans (beq_self_eq_true name)) (by decide)

/-- Rosters in which the same is found under each text have the same entries. -/
theorem entries_perm_of_get? (texts : HasTextKeys m) (texts' : HasTextKeys m')
    (same : ∀ name, m.get? (.text name) = m'.get? (.text name)) :
    m.entries.Perm m'.entries := by
  refine (List.perm_ext_iff_of_nodup texts.nodup_entries texts'.nodup_entries).2 fun e => ?_
  have alike : ∀ name x, (.text name, x) ∈ m.entries ↔ (.text name, x) ∈ m'.entries := by
    intro name x
    rw [mem_entries_iff, mem_entries_iff, same]
  constructor
  · intro mem
    obtain ⟨name, key⟩ := texts e.1 (List.mem_map_of_mem mem)
    have split : e = (.text name, e.2) := Prod.ext key rfl
    rw [split] at mem ⊢
    exact (alike name e.2).1 mem
  · intro mem
    obtain ⟨name, key⟩ := texts' e.1 (List.mem_map_of_mem mem)
    have split : e = (.text name, e.2) := Prod.ext key rfl
    rw [split] at mem ⊢
    exact (alike name e.2).2 mem

theorem text_beq_text_of_ne {name other : String} (h : other ≠ name) :
    ((.text name : Value κ) == .text other) = false :=
  show (name == other) = false from beq_false_of_ne h.symm

/-- Nothing is equal to two texts. -/
theorem apart_text {name other : String} (h : other ≠ name) (key : Value κ)
    (hk : (key == .text name) = true) : (key == .text other) = false := by
  rw [eq_text_of_beq hk]
  exact text_beq_text_of_ne h

/-- Inserting under a text changes what is found under this text. -/
theorem get?_insert_text (m : Roster κ χ) (name other : String) (x : χ) :
    (m.insert (.text name) x).get? (.text other) =
      if other = name then some x else m.get? (.text other) := by
  split
  · rename_i same
    rw [same, OrderedMap.get?_insert_self m (beq_self_eq_true name)]
  · rename_i differ
    exact OrderedMap.get?_insert_of_apart m (apart_text differ) (text_beq_text_of_ne differ) x

/-- Erasing a text changes what is found under this text. -/
theorem get?_erase_text (m : Roster κ χ) (name other : String) :
    (m.erase (.text name)).get? (.text other) =
      if other = name then none else m.get? (.text other) := by
  split
  · rename_i same
    rw [same, ← Option.not_isSome_iff_eq_none, ← OrderedMap.contains_eq_isSome_get?,
      OrderedMap.contains_erase_self]
    exact Bool.false_ne_true
  · rename_i differ
    exact OrderedMap.get?_erase_of_apart m (apart_text differ)

/-- Inserting under a text keeps the keys texts. -/
theorem HasTextKeys.insert (texts : HasTextKeys m) (name : String) (x : χ) :
    HasTextKeys (m.insert (.text name) x) := by
  intro key mem
  by_cases present : m.contains (.text name) = true
  · rw [OrderedMap.keys_insert_of_contains present] at mem
    exact texts key mem
  · rw [OrderedMap.keys_insert_of_not_contains (Bool.not_eq_true _ ▸ present)] at mem
    rcases List.mem_append.1 mem with old | new
    · exact texts key old
    · exact ⟨name, List.mem_singleton.1 new⟩

theorem HasTextKeys.erase (texts : HasTextKeys m) (key : Value κ) : HasTextKeys (m.erase key) := by
  intro k mem
  rw [OrderedMap.keys_erase] at mem
  exact texts k (List.mem_of_mem_filter mem)

end Collector

end CacheTelemetry
