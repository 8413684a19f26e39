import CacheTelemetry.Proofs.Collector.Operations
import CacheTelemetry.Session.Run

/-!
# Null and the empty text

Null and the empty text are to be one name. So in a run of operations the one may be put for the
other, in the names of the caches that are added, in the names that are removed and in the names
that are asked for. Adding and removing turn null into the empty text before they do anything, and
it makes no difference to them. Asking whether a name is in the roster does not, and null is in only
if an entry is nameless.

Hence **the two runs go through the same states and give the same answers but for the tests whose
name was replaced; and a replaced test is answered alike exactly if the roster has both null and the
empty text or neither of them** (`answers_replaced_iff`).
-/

namespace CacheTelemetry

/-- A value as a name: null is the empty text. -/
def Value.orEmpty {κ : Type} : Value κ → Value κ
  | .null => .text ""
  | v => v

namespace Collector

open Effect

variable {σ κ χ : Type} [BEq κ]

/-- Two operations that differ in a name at most, which is null in one and the empty text in the
other. -/
inductive Operation.Alike : Operation σ κ χ → Operation σ κ χ → Prop where
  | add {v w : Value κ} (same : v.orEmpty = w.orEmpty) (cache : χ) :
    Alike (.add (return v) cache) (.add (return w) cache)
  | remove {a b : Option String} (same : a.getD "" = b.getD "") : Alike (.remove a) (.remove b)
  | clear : Alike .clear .clear
  | size : Alike .size .size
  | contains {v w : Value κ} (same : v.orEmpty = w.orEmpty) : Alike (.contains v) (.contains w)
  | collect : Alike .collect .collect
  | elsewhere (x : Effect σ Unit) : Alike (.elsewhere x) (.elsewhere x)

/-- In the course of a run of the first operations the state `u` is reached, and a test is made
there whose name is another one in the second operations. -/
inductive Retested [DecidableEq χ] (c : Collector σ κ χ) :
    List (Operation σ κ χ) → List (Operation σ κ χ) → σ → σ → Prop where
  | here {v w : Value κ} {ops ops' : List (Operation σ κ χ)} {s : σ} (replaced : v ≠ w) :
    Retested c (.contains v :: ops) (.contains w :: ops') s s
  | later {op op' : Operation σ κ χ} {ops ops' : List (Operation σ κ χ)} {s u : σ}
    (h : Retested c ops ops' ((c.perform op).runFrom s).2 u) :
    Retested c (op :: ops) (op' :: ops') s u

variable [DecidableEq χ] {c : Collector σ κ χ} {valid : σ → Prop} {s u : σ}
  {op op' : Operation σ κ χ} {ops ops' : List (Operation σ κ χ)} {v w : Value κ}

/-! ### Single operations -/

omit [BEq κ] in
/-- Of two different values that are one name, one is null and the other the empty text. -/
theorem null_and_empty_of_orEmpty_eq (same : v.orEmpty = w.orEmpty) (ne : v ≠ w) :
    v = .null ∧ w = .text "" ∨ v = .text "" ∧ w = .null := by
  cases v <;> cases w <;> simp_all [Value.orEmpty]

/-- A cache with a name that stays is added under the name that null is turned into. -/
theorem add_naming_orEmpty (v : Value κ) (cache : χ) :
    (c.naming (return v)).add cache = (c.naming (return v.orEmpty)).add cache := by
  cases v <;> rfl

/-- Operations that are alike do the same, but for the answers of tests. -/
theorem Operation.Alike.perform_eq (alike : op.Alike op') :
    c.perform op' = c.perform op ∨
      ∃ v w, op = .contains v ∧ op' = .contains w ∧ v.orEmpty = w.orEmpty := by
  cases alike with
  | @add v w same cache =>
    left
    rw [perform, perform, add_naming_orEmpty w, add_naming_orEmpty v, same]
  | remove same =>
    left
    rw [perform, perform, Collector.remove, Collector.remove, same]
  | contains same => exact .inr ⟨_, _, rfl, rfl, same⟩
  | clear | size | collect | elsewhere x => exact .inl rfl

theorem Operation.Alike.state_eq (alike : op.Alike op') (s : σ) :
    ((c.perform op').runFrom s).2 = ((c.perform op).runFrom s).2 := by
  rcases alike.perform_eq (c := c) with same | ⟨v, w, rfl, rfl, -⟩
  · rw [same]
  · -- a test leaves the state as it is, whatever its name
    rw [perform, perform, runFrom_bind_pure_snd, runFrom_bind_pure_snd, runFrom_contains_snd,
      runFrom_contains_snd]

/-- The two tests agree if the roster has null exactly if it has the empty text. -/
theorem test_eq_iff (same : v.orEmpty = w.orEmpty) (ne : v ≠ w) :
    ((c.perform (.contains w)).runFrom s).1 = ((c.perform (.contains v)).runFrom s).1 ↔
      (c.roster s).contains .null = (c.roster s).contains (.text "") := by
  have null : ((c.perform (.contains .null)).runFrom s).1 =
    .ok (.flag ((c.roster s).contains .null)) := rfl
  have empty : ((c.perform (.contains (.text ""))).runFrom s).1 =
    .ok (.flag ((c.roster s).contains (.text ""))) := rfl
  rcases null_and_empty_of_orEmpty_eq same ne with ⟨rfl, rfl⟩ | ⟨rfl, rfl⟩
  · rw [null, empty, Except.ok.injEq, Reply.flag.injEq, eq_comm]
  · rw [null, empty, Except.ok.injEq, Reply.flag.injEq]

/-! ### Runs -/

/-- Runs of operations that are alike lead to the same state. -/
theorem after_eq_of_alike (alike : List.Forall₂ Operation.Alike ops ops') (s : σ) :
    c.after ops' s = c.after ops s := by
  induction alike generalizing s with
  | nil => rfl
  | @cons op op' ops ops' first _ ih =>
    rw [after, after, List.foldl_cons, List.foldl_cons, first.state_eq]
    exact ih _

/-- The answers agree exactly if those to the replaced tests do. -/
theorem answers_eq_iff_of_alike (alike : List.Forall₂ Operation.Alike ops ops') (s : σ) :
    c.answers ops' s = c.answers ops s ↔ ∀ u, c.Retested ops ops' s u →
      (c.roster u).contains .null = (c.roster u).contains (.text "") := by
  induction alike generalizing s with
  | nil => exact iff_of_true rfl fun u h => by cases h
  | @cons op op' ops ops' first _ ih =>
    rw [answers, answers, List.cons.injEq, first.state_eq, ih]
    constructor
    · rintro ⟨answer, rest⟩ u retested
      cases retested with
      | here replaced =>
        cases first with
        | contains same => exact (test_eq_iff same replaced).1 answer
      | later h => exact rest u h
    · intro tests
      refine ⟨?_, fun u h => tests u (.later h)⟩
      rcases first.perform_eq (c := c) with same | ⟨v, w, rfl, rfl, same⟩
      · rw [same]
      · by_cases eq : v = w
        · rw [eq]
        · exact (test_eq_iff same eq).2 (tests s (.here eq))

/-- Whatever is not a test is answered alike. -/
theorem answers_getElem?_of_alike (alike : List.Forall₂ Operation.Alike ops ops') (s : σ) (i : Nat)
    (other : ∀ v, ops[i]? ≠ some (.contains v)) :
    (c.answers ops' s)[i]? = (c.answers ops s)[i]? := by
  induction alike generalizing s i with
  | nil => rfl
  | @cons op op' ops ops' first _ ih =>
    rw [answers, answers, first.state_eq]
    cases i with
    | zero =>
      rcases first.perform_eq (c := c) with same | ⟨v, w, rfl, rfl, -⟩
      · rw [same]
        rfl
      · exact absurd rfl (other v)
    | succ i => exact ih _ i other

/-- A replaced test is a test of the run. -/
theorem Retested.exists_mem (h : c.Retested ops ops' s u) : ∃ v, .contains v ∈ ops := by
  induction h with
  | here _ => exact ⟨_, List.mem_cons_self⟩
  | later _ ih =>
    obtain ⟨v, mem⟩ := ih
    exact ⟨v, List.mem_cons_of_mem _ mem⟩

/-- A replaced test is made in a state that a part of the run leads to. -/
theorem Retested.exists_after (h : c.Retested ops ops' s u) :
    ∃ before later, ops = before ++ later ∧ u = c.after before s := by
  induction h with
  | here _ => exact ⟨[], _, rfl, rfl⟩
  | @later op op' ops ops' s u _ ih =>
    obtain ⟨before, later, rfl, state⟩ := ih
    exact ⟨op :: before, later, rfl, state⟩

omit [BEq κ] [DecidableEq χ] in
/-- Caches whose names stay do not come in nameless. -/
theorem not_entersNameless_of_alike (alike : List.Forall₂ Operation.Alike ops ops') :
    ∀ op ∈ ops, ∀ s, ¬ op.EntersNameless s := by
  induction alike with
  | nil => exact fun op mem => absurd mem List.not_mem_nil
  | @cons op op' ops ops' first _ ih =>
    refine List.forall_mem_cons.2 ⟨fun s enters => ?_, ih⟩
    cases first with
    | add same cache => exact not_entersNameless_pure enters
    | remove | clear | size | contains | collect | elsewhere => exact enters

/-- So null is not in the roster where a test is made. -/
theorem StartsEmpty.contains_null_of_alike (starts : c.StartsEmpty valid ops s)
    (alike : List.Forall₂ Operation.Alike ops ops') (h : c.Retested ops ops' s u) :
    (c.roster u).contains .null = false := by
  obtain ⟨before, later, rfl, rfl⟩ := h.exists_after
  have part : c.StartsEmpty valid before s :=
    ⟨starts.undisturbed, fun op mem => starts.spares op (List.mem_append_left _ mem), starts.valid,
      starts.empty⟩
  rw [← Bool.not_eq_true, part.contains_null_after.2.2]
  rintro ⟨first, op, rest, rfl, enters, -⟩
  exact not_entersNameless_of_alike alike op (by simp) _ enters

/-- **Null may be put for the empty text and the empty text for null, except in a test while the
roster has the one and not the other.** The states stay the same, and so do the caches that are
given back, the sizes and the families. All answers do exactly if, where a test is made for the one
instead of the other, the roster has both or none of them; and as caches whose names stay are never
entered under null, that is if it does not have the empty text. -/
theorem answers_replaced_iff (alike : List.Forall₂ Operation.Alike ops ops') (s : σ) :
    c.after ops' s = c.after ops s ∧
      (∀ i : Nat, (∀ v, ops[i]? ≠ some (.contains v)) →
        (c.answers ops' s)[i]? = (c.answers ops s)[i]?) ∧
      (c.answers ops' s = c.answers ops s ↔ ∀ u, c.Retested ops ops' s u →
        (c.roster u).contains .null = (c.roster u).contains (.text "")) ∧
      ∀ valid, c.StartsEmpty valid ops s →
        (c.answers ops' s = c.answers ops s ↔ ∀ u, c.Retested ops ops' s u →
          (c.roster u).contains (.text "") = false) := by
  refine ⟨after_eq_of_alike alike s, answers_getElem?_of_alike alike s,
    answers_eq_iff_of_alike alike s, fun valid starts => ?_⟩
  rw [answers_eq_iff_of_alike alike s]
  refine forall₂_congr fun u retested => ?_
  rw [starts.contains_null_of_alike alike retested, eq_comm]

/-- Where no name is asked for, all answers stay the same. -/
theorem answers_replaced_iff_untested :
    let ops : List (Operation (Roster Empty Nat × Bool) Empty Nat) :=
      [.add (return .null) 0, .size, .collect, .remove (some "")]
    let ops' : List (Operation (Roster Empty Nat × Bool) Empty Nat) :=
      [.add (return .text "") 0, .size, .collect, .remove none]
    List.Forall₂ Operation.Alike ops ops' ∧
      solitary.answers ops' (∅, false) = solitary.answers ops (∅, false) := by
  intro ops ops'
  have alike : List.Forall₂ Operation.Alike ops ops' :=
    .cons (.add (v := .null) (w := .text "") rfl 0)
      (.cons .size (.cons .collect (.cons (.remove rfl) .nil)))
  have replaced := answers_replaced_iff (c := solitary) alike (∅, false)
  refine ⟨alike, replaced.2.2.1.2 fun u retested => ?_⟩
  obtain ⟨v, mem⟩ := retested.exists_mem
  simp [ops] at mem

open Session in
/-- A collector with a cache that has no name. -/
def namelessCache : World :=
  worldAfter [.newCache "c" .null (.text "m"), .addCache "main" "c"] default

open Session in
/-- The cache is in under the empty text, and asking for null does not find it. -/
theorem answers_differ_namelessCache :
    (.contains (.text "") : Operation World Callable Place).Alike (.contains .null) ∧
      (Session.collector 0).answers [.contains .null] namelessCache ≠
        (Session.collector 0).answers [.contains (.text "")] namelessCache := by
  have empty : ((Session.collector 0).roster namelessCache).contains (.text "") = true := by
    decide +kernel
  have null : ((Session.collector 0).roster namelessCache).contains .null = false := by
    decide +kernel
  have alike : (.contains (.text "") : Operation World Callable Place).Alike
    (.contains .null) := .contains rfl
  refine ⟨alike, fun same => ?_⟩
  have tests := (answers_eq_iff_of_alike (.cons alike .nil) namelessCache).1 same
  have found := tests namelessCache (.here (by simp))
  rw [empty, null] at found
  cases found

end Collector

end CacheTelemetry
