import CacheTelemetry.Proofs.Collector.Keeping
import CacheTelemetry.Proofs.Collector.Roster

/-!
# Runs of operations

What is done with a collector from outside, one operation after the other: caches are added and
removed, the collector is asked for its size and its names, and it is scraped; and between these
anything else may happen. An operation that fails is over, and the next one starts in the state that
it left. `Collector.after` is the state after a run, `Collector.answers` are its answers.

A name is a text or null. The keys of a roster are names as long as all names that are read are, and
an entry is *nameless* if its key is null. Foreign code *spares* the roster if it keeps its keys
names and brings no nameless entry in or out; it may well call the collector otherwise. The
operations do the same but for two: adding a cache may bring in a nameless entry, and clearing takes
it out (`Undisturbed.leaves_perform`). Hence **whether a run leaves a nameless entry depends on the
caches that came in nameless since the last clearing, and on nothing else**
(`StartsEmpty.contains_null_after`).
-/

namespace CacheTelemetry

/-- A name as a value: a text, or null if there is none. -/
def Value.ofName {κ : Type} : Option String → Value κ
  | none => .null
  | some s => .text s

namespace Collector

open Effect

variable {σ κ χ : Type} [BEq κ]

/-- What is done with a collector. A cache that is added has a name, which is read as often as the
collector asks for it; `elsewhere` is anything that is not done with the collector. -/
inductive Operation (σ κ χ : Type) where
  | add (name : Effect σ (Value κ)) (cache : χ)
  | remove (name : Option String)
  | clear
  | size
  | contains (name : Value κ)
  | collect
  | elsewhere (x : Effect σ Unit)

/-- What a collector answers to an operation. -/
inductive Reply (κ χ : Type) where
  | done
  | removed (cache : Option χ)
  | count (n : Nat)
  | flag (b : Bool)
  | families (families : List (Family κ))

/-- The collector, with caches that give themselves their names in the way that is given. -/
def naming (c : Collector σ κ χ) (name : Effect σ (Value κ)) : Collector σ κ χ :=
  { c with cacheName := fun _ => name }

/-- Performs an operation. -/
def perform [DecidableEq χ] (c : Collector σ κ χ) : Operation σ κ χ → Effect σ (Reply κ χ)
  | .add name cache => do
    (c.naming name).add cache
    return .done
  | .remove name => do return .removed (← c.remove name)
  | .clear => do
    c.clear
    return .done
  | .size => do return .count (c.roster (← get)).size
  | .contains name => do return .flag (← c.contains name)
  | .collect => do return .families (← c.collect)
  | .elsewhere x => do
    x
    return .done

/-- The state after operations that are performed one after the other. -/
def after [DecidableEq χ] (c : Collector σ κ χ) (ops : List (Operation σ κ χ)) (s : σ) : σ :=
  ops.foldl (fun s op => ((c.perform op).runFrom s).2) s

/-- The answers to operations that are performed one after the other. -/
def answers [DecidableEq χ] (c : Collector σ κ χ) :
    List (Operation σ κ χ) → σ → List (Except Fault (Reply κ χ))
  | [], _ => []
  | op :: rest, s => ((c.perform op).runFrom s).1 :: c.answers rest ((c.perform op).runFrom s).2

variable {c : Collector σ κ χ} {valid : σ → Prop} {s t : σ}

/-! ### Names -/

/-- A name is equal to null as a key exactly if it is null. -/
theorem ofName_beq_null (name : Option String) :
    ((Value.ofName name : Value κ) == .null) = decide (name = none) := by
  cases name <;> rfl

omit [BEq κ] in
theorem isKey_ofName (name : Option String) : (Value.ofName name : Value κ).isKey = true := by
  cases name <;> rfl

/-- All keys of the roster are names. -/
def IsNamed (c : Collector σ κ χ) (s : σ) : Prop :=
  ∀ key ∈ (c.roster s).keys, ∃ name, key = Value.ofName name

/-- The key under which a cache is entered is null exactly if the first read gives a name and the
second none. -/
theorem entryName_eq_null_iff {cache : χ} :
    (c.entryName cache).runFrom s = (.ok .null, t) ↔
      ∃ first u, first ≠ .null ∧ (c.cacheName cache).runFrom s = (.ok first, u) ∧
        (c.cacheName cache).runFrom u = (.ok .null, t) := by
  rw [entryName, bind_eq_ok_iff]
  constructor
  · rintro ⟨first, u, read, again⟩
    split at again
    · cases again
    · rename_i named
      exact ⟨first, u, named, read, again⟩
  · rintro ⟨first, u, named, read, again⟩
    refine ⟨first, u, read, ?_⟩
    split
    · exact absurd rfl named
    · exact again

/-! ### Foreign code that spares the roster -/

/-- From a state to one whose roster has names for keys, and has a nameless entry exactly if the
roster had one before. -/
structure SparesRoster (c : Collector σ κ χ) (valid : σ → Prop) (s t : σ) : Prop where
  valid : valid t
  named : c.IsNamed t
  nameless : (c.roster t).contains .null = (c.roster s).contains .null

/-- Foreign code that spares the roster wherever it starts. -/
def Spares {α : Type} (c : Collector σ κ χ) (valid : σ → Prop) (x : Effect σ α) : Prop :=
  ∀ s, valid s → c.IsNamed s → c.SparesRoster valid s (x.runFrom s).2

/-- The foreign code in an operation spares the roster, and gives names where it is asked for
names. -/
def Operation.Spares (c : Collector σ κ χ) (valid : σ → Prop) : Operation σ κ χ → Prop
  | .add name _ => c.Spares valid name ∧
    ∀ s v t, name.runFrom s = (.ok v, t) → ∃ n, v = Value.ofName n
  | .elsewhere x => c.Spares valid x
  | _ => True

/-- The roster is a part of the state, and the foreign code that a scrape calls spares it. -/
structure Undisturbed (c : Collector σ κ χ) (valid : σ → Prop) : Prop where
  stores : c.StoresRoster valid
  managerUri : ∀ x, c.Spares valid (c.managerUri x)
  isRegistered : ∀ n, c.Spares valid (c.isRegistered n)
  readAttribute : ∀ n (st : Statistic), c.Spares valid (c.readAttribute n st.attrName)
  wording : ∀ w, c.Spares valid (c.wording w)

/-- Where the roster is the same, it has been spared. -/
theorem SparesRoster.of_roster_eq (h : valid t) (named : c.IsNamed s)
    (same : c.roster t = c.roster s) : c.SparesRoster valid s t :=
  ⟨h, by rwa [IsNamed, same], by rw [same]⟩

theorem SparesRoster.trans {u : σ} (first : c.SparesRoster valid s t)
    (second : c.SparesRoster valid t u) : c.SparesRoster valid s u :=
  ⟨second.valid, second.named, second.nameless.trans first.nameless⟩

/-- Foreign code spares what was spared before. -/
theorem SparesRoster.andThen {α : Type} {x : Effect σ α} (first : c.SparesRoster valid s t)
    (spares : c.Spares valid x) : c.SparesRoster valid s (x.runFrom t).2 :=
  first.trans (spares t first.valid first.named)

/-- Having spared the roster of a state is kept by the code that a scrape calls. -/
theorem Undisturbed.readsKeep (undisturbed : c.Undisturbed valid) (s : σ) :
    c.ReadsKeep (c.SparesRoster valid s) where
  managerUri x _ spared := spared.andThen (undisturbed.managerUri x)
  isRegistered n _ spared := spared.andThen (undisturbed.isRegistered n)
  readAttribute n st _ spared := spared.andThen (undisturbed.readAttribute n st)
  wording w _ spared := spared.andThen (undisturbed.wording w)
  log record _ spared :=
    spared.trans (.of_roster_eq (undisturbed.stores.valid_log spared.valid record) spared.named
      (undisturbed.stores.roster_log spared.valid record))

/-- A scrape spares the roster if the code that it calls does. -/
theorem Undisturbed.spares_collect (undisturbed : c.Undisturbed valid) :
    c.Spares valid c.collect :=
  fun s h named => (undisturbed.readsKeep s).collect s (.of_roster_eq h named rfl)

/-- Reading the name of a cache, once or twice, spares the roster if the name does. -/
theorem spares_entryName {name : Effect σ (Value κ)} (spares : c.Spares valid name) (cache : χ) :
    c.Spares valid ((c.naming name).entryName cache) := by
  intro s h named
  have kept : Keeps (c.SparesRoster valid s) name := fun _ spared => spared.andThen spares
  have entered : Keeps (c.SparesRoster valid s) ((c.naming name).entryName cache) :=
    entryName_keeps kept
  exact entered s (.of_roster_eq h named rfl)

/-- The key under which a cache is entered is a name if names are read. -/
theorem exists_ofName_of_entryName {name : Effect σ (Value κ)}
    (gives : ∀ s v t, name.runFrom s = (.ok v, t) → ∃ n, v = Value.ofName n) {cache : χ}
    {key : Value κ} (entered : ((c.naming name).entryName cache).runFrom s = (.ok key, t)) :
    ∃ n, key = Value.ofName n := by
  rw [entryName, bind_eq_ok_iff] at entered
  obtain ⟨first, u, -, again⟩ := entered
  split at again
  · cases again
    exact ⟨some "", rfl⟩
  · exact gives u key t again

/-! ### Single operations -/

/-- Inserting a name brings in a nameless entry exactly if the name is null. -/
theorem contains_null_insert (m : Roster κ χ) (name : Option String) (cache : χ) :
    (m.insert (.ofName name) cache).contains .null =
      (decide (name = none) || m.contains .null) := by
  by_cases present : m.contains (.ofName name) = true
  · have same : (m.insert (.ofName name) cache).contains .null = m.contains .null := by
      rw [OrderedMap.contains_eq_any_keys, OrderedMap.keys_insert_of_contains present,
        ← OrderedMap.contains_eq_any_keys]
    rw [same]
    cases name with
    | none => rw [show m.contains .null = true from present, Bool.or_true]
    | some _ => rfl
  · rw [Bool.not_eq_true] at present
    rw [OrderedMap.contains_eq_any_keys, OrderedMap.keys_insert_of_not_contains present,
      List.any_append, ← OrderedMap.contains_eq_any_keys, Bool.or_comm]
    simp [ofName_beq_null]

/-- Erasing a text leaves nameless entries alone. -/
theorem contains_null_erase {m : Roster κ χ}
    (named : ∀ key ∈ m.keys, ∃ name, key = Value.ofName name) (name : String) :
    (m.erase (.text name)).contains .null = m.contains .null := by
  rw [OrderedMap.contains_eq_any_keys, OrderedMap.contains_eq_any_keys, OrderedMap.keys_erase,
    List.any_filter, Bool.eq_iff_iff, List.any_eq_true, List.any_eq_true]
  refine exists_congr fun key => and_congr_right fun mem => ?_
  obtain ⟨_ | _, rfl⟩ := named key mem <;> simp [ofName_beq_null]
  rfl

theorem IsNamed.insert {key : Option String} {cache : χ} (named : c.IsNamed s)
    (roster : c.roster t = (c.roster s).insert (.ofName key) cache) : c.IsNamed t := by
  intro k mem
  rw [roster] at mem
  by_cases present : (c.roster s).contains (.ofName key) = true
  · rw [OrderedMap.keys_insert_of_contains present] at mem
    exact named k mem
  · rw [OrderedMap.keys_insert_of_not_contains (Bool.not_eq_true _ ▸ present)] at mem
    rcases List.mem_append.1 mem with old | new
    · exact named k old
    · exact ⟨key, List.mem_singleton.1 new⟩

theorem IsNamed.erase {key : Value κ} (named : c.IsNamed s)
    (roster : c.roster t = (c.roster s).erase key) : c.IsNamed t := by
  intro k mem
  rw [roster, OrderedMap.keys_erase] at mem
  exact named k (List.mem_of_mem_filter mem)

/-- A nameless entry comes in: a cache is added whose name is there at the first read, and gone at
the second. -/
def Operation.EntersNameless : Operation σ κ χ → σ → Prop
  | .add name _, s => ∃ first t u, first ≠ .null ∧ name.runFrom s = (.ok first, t) ∧
    name.runFrom t = (.ok .null, u)
  | _, _ => False

theorem entersNameless_add_iff (c : Collector σ κ χ) {name : Effect σ (Value κ)} {cache : χ} :
    (Operation.add name cache).EntersNameless s ↔
      ∃ t, ((c.naming name).entryName cache).runFrom s = (.ok .null, t) := by
  simp only [entryName_eq_null_iff]
  constructor
  · rintro ⟨first, t, u, read⟩
    exact ⟨u, first, t, read⟩
  · rintro ⟨u, first, t, read⟩
    exact ⟨first, t, u, read⟩

/-- What an operation leaves: names for keys, and a nameless entry exactly if it came in, or was
there before and all caches were not removed. -/
structure Leaves (c : Collector σ κ χ) (valid : σ → Prop) (op : Operation σ κ χ) (s t : σ) :
    Prop where
  valid : valid t
  named : c.IsNamed t
  nameless : (c.roster t).contains .null = true ↔
    op.EntersNameless s ∨ op ≠ .clear ∧ (c.roster s).contains .null = true

/-- An operation that spares the roster brings in nothing. -/
theorem SparesRoster.leaves {op : Operation σ κ χ} (spared : c.SparesRoster valid s t)
    (enters : ¬ op.EntersNameless s) (kept : op ≠ .clear) : c.Leaves valid op s t :=
  ⟨spared.valid, spared.named, by simp [spared.nameless, enters, kept]⟩

theorem StoresRoster.naming (stores : c.StoresRoster valid) (name : Effect σ (Value κ)) :
    (c.naming name).StoresRoster valid :=
  ⟨stores.valid_setRoster, stores.valid_log, stores.roster_setRoster, stores.roster_log⟩

section

variable [DecidableEq χ] (undisturbed : c.Undisturbed valid) (h : valid s) (named : c.IsNamed s)

include undisturbed h named in
/-- Adding a cache brings in a nameless entry exactly if its name is gone at the second read. -/
theorem Undisturbed.leaves_add {name : Effect σ (Value κ)} {cache : χ}
    (spares : (Operation.add name cache).Spares c valid) :
    c.Leaves valid (.add name cache) s ((c.perform (.add name cache)).runFrom s).2 := by
  have spared := spares_entryName spares.1 cache s h named
  rw [perform, runFrom_bind_pure_snd _ fun _ => Reply.done]
  rcases entered : ((c.naming name).entryName cache).runFrom s with ⟨f | key, t⟩
  · -- the name could not be read, and nothing is entered
    rw [entered] at spared
    have refused : ((c.naming name).add cache).runFrom s = (.error f, t) := by
      rw [add, runFrom_bind_of_error entered]
    have outside : ¬ (Operation.add name cache).EntersNameless s := by
      rw [entersNameless_add_iff c, entered]
      simp
    rw [refused]
    exact spared.leaves outside (by simp)
  · rw [entered] at spared
    obtain ⟨n, rfl⟩ := exists_ofName_of_entryName spares.2 entered
    obtain ⟨u, run, hu, roster⟩ := (undisturbed.stores.naming name).runFrom_add_of_entryName
      entered (isKey_ofName n) spared.valid
    rw [run]
    have enters : (Operation.add name cache).EntersNameless s ↔ n = none := by
      rw [entersNameless_add_iff c, entered]
      cases n <;> simp [Value.ofName]
    have held : (c.roster u).contains .null = (decide (n = none) || (c.roster t).contains .null) :=
      (congrArg (fun m => m.contains .null) roster).trans (contains_null_insert _ n cache)
    refine ⟨hu, spared.named.insert roster, ?_⟩
    rw [held, spared.nameless, enters]
    simp

include undisturbed h named in
/-- Each operation keeps the keys names, and what it does to nameless entries is that it may bring
one in when a cache is added and takes them out when all caches are removed. -/
theorem Undisturbed.leaves_perform {op : Operation σ κ χ} (spares : op.Spares c valid) :
    c.Leaves valid op s ((c.perform op).runFrom s).2 := by
  cases op with
  | add name cache => exact undisturbed.leaves_add h named spares
  | remove name =>
    obtain ⟨t, run, ht, roster⟩ := undisturbed.stores.runFrom_remove h name
    have same : (c.roster t).contains .null = (c.roster s).contains .null := by
      rw [roster, contains_null_erase named]
    have spared : c.SparesRoster valid s t := ⟨ht, named.erase roster, same⟩
    rw [perform, runFrom_bind_pure_snd, run]
    exact spared.leaves id (by simp)
  | clear =>
    obtain ⟨t, run, ht, roster⟩ := undisturbed.stores.runFrom_clear h
    rw [perform, runFrom_bind_pure_snd _ fun _ => Reply.done, run]
    refine ⟨ht, ?_, ?_⟩
    · intro key mem
      rw [roster] at mem
      cases mem
    · rw [roster]
      simp [Operation.EntersNameless, OrderedMap.contains]
  | size => exact (SparesRoster.of_roster_eq h named rfl).leaves id (by simp)
  | contains name =>
    rw [perform, runFrom_bind_pure_snd, runFrom_contains_snd]
    exact (SparesRoster.of_roster_eq h named rfl).leaves id (by simp)
  | collect =>
    rw [perform, runFrom_bind_pure_snd]
    exact (undisturbed.spares_collect s h named).leaves id (by simp)
  | elsewhere x =>
    rw [perform, runFrom_bind_pure_snd _ fun _ => Reply.done]
    exact (spares s h named).leaves id (by simp)

end

/-! ### Runs -/

section

variable [DecidableEq χ]

/-- What a run starts from: the roster is empty, and what foreign code the operations and the
scrapes call spares it. -/
structure StartsEmpty (c : Collector σ κ χ) (valid : σ → Prop) (ops : List (Operation σ κ χ))
    (s : σ) : Prop where
  undisturbed : c.Undisturbed valid
  spares : ∀ op ∈ ops, op.Spares c valid
  valid : valid s
  empty : c.roster s = ∅

/-- The last operation starts in the state that the others have left. -/
theorem after_concat (ops : List (Operation σ κ χ)) (op : Operation σ κ χ) (s : σ) :
    c.after (ops ++ [op]) s = ((c.perform op).runFrom (c.after ops s)).2 := List.foldl_append

/-- A run of operations leaves a nameless entry: one came in, and since then the caches have not all
been removed. -/
def LeavesNameless (c : Collector σ κ χ) (ops : List (Operation σ κ χ)) (s : σ) : Prop :=
  ∃ before op later, ops = before ++ op :: later ∧ op.EntersNameless (c.after before s) ∧
    .clear ∉ later

/-- One more operation leaves a nameless entry if it brings one in, or does not remove the one that
was left before. -/
theorem leavesNameless_concat {ops : List (Operation σ κ χ)} {op : Operation σ κ χ} :
    c.LeavesNameless (ops ++ [op]) s ↔
      op.EntersNameless (c.after ops s) ∨ op ≠ .clear ∧ c.LeavesNameless ops s := by
  constructor
  · rintro ⟨before, entered, later, split, enters, kept⟩
    rcases later.eq_nil_or_concat' with rfl | ⟨later, last, rfl⟩
    · obtain ⟨rfl, last⟩ := List.append_inj' split rfl
      cases last
      exact .inl enters
    · have shifted : ops ++ [op] = (before ++ entered :: later) ++ [last] := by
        rw [split, List.append_assoc]
        rfl
      obtain ⟨rfl, same⟩ := List.append_inj' shifted rfl
      cases same
      rw [List.mem_append, List.mem_singleton, not_or] at kept
      exact .inr ⟨Ne.symm kept.2, before, entered, later, rfl, enters, kept.1⟩
  · rintro (enters | ⟨other, before, entered, later, rfl, enters, kept⟩)
    · exact ⟨ops, op, [], rfl, enters, List.not_mem_nil⟩
    · refine ⟨before, entered, later ++ [op], List.append_assoc _ _ _, enters, ?_⟩
      rw [List.mem_append, List.mem_singleton, not_or]
      exact ⟨kept, Ne.symm other⟩

/-- After a run that began with an empty roster the keys are names, and there is a nameless entry
exactly if one came in since the caches were last removed. -/
theorem StartsEmpty.contains_null_after {ops : List (Operation σ κ χ)}
    (starts : c.StartsEmpty valid ops s) :
    valid (c.after ops s) ∧ c.IsNamed (c.after ops s) ∧
      ((c.roster (c.after ops s)).contains .null = true ↔ c.LeavesNameless ops s) := by
  induction ops using List.reverseRecOn with
  | nil =>
    refine ⟨starts.valid, ?_, ?_⟩
    · intro key mem
      rw [show c.roster (c.after [] s) = ∅ from starts.empty] at mem
      cases mem
    · rw [show c.roster (c.after [] s) = ∅ from starts.empty]
      simp [OrderedMap.contains, LeavesNameless]
  | append_singleton ops op ih =>
    obtain ⟨h, named, nameless⟩ := ih ⟨starts.undisturbed,
      fun op' mem => starts.spares op' (List.mem_append_left _ mem), starts.valid, starts.empty⟩
    have left : c.Leaves valid op (c.after ops s) (c.after (ops ++ [op]) s) := by
      rw [after_concat]
      exact starts.undisturbed.leaves_perform h named
        (starts.spares op (List.mem_append_right _ (List.mem_singleton_self op)))
    exact ⟨left.valid, left.named, by rw [left.nameless, nameless, leavesNameless_concat]⟩

end

/-! ### Names that stay -/

omit [BEq κ] in
/-- A cache that always gives the same name does not come in nameless. -/
theorem not_entersNameless_pure {v : Value κ} {cache : χ} :
    ¬ (Operation.add (return v) cache).EntersNameless s := by
  rintro ⟨first, t, u, there, read, gone⟩
  cases read
  cases gone
  exact there rfl

theorem spares_pure (name : Option String) (cache : χ) :
    (Operation.add (return .ofName name) cache).Spares c valid := by
  refine ⟨fun s h named => .of_roster_eq h named rfl, ?_⟩
  intro s v t read
  cases read
  exact ⟨name, rfl⟩

/-! ### A collector on its own -/

/-- A collector on its own: its state is the roster and a mark, its caches have one manager, and no
statistics are registered. -/
def solitary : Collector (Roster Empty Nat × Bool) Empty Nat where
  roster := Prod.fst
  setRoster r s := (r, s.2)
  settings _ := .standard
  cacheName _ := return .null
  managerUri _ := return .text "m"
  isRegistered _ := return .bool false
  readAttribute _ _ := return .null
  wording w := return w.text
  log _ s := s

theorem startsEmpty_solitary {ops : List (Operation (Roster Empty Nat × Bool) Empty Nat)}
    (spares : ∀ op ∈ ops, op.Spares solitary fun _ => True) (mark : Bool) :
    solitary.StartsEmpty (fun _ => True) ops (∅, mark) where
  undisturbed :=
    { stores := ⟨fun h _ => h, fun h _ => h, fun _ _ => rfl, fun _ _ => rfl⟩
      managerUri := fun _ _ h named => .of_roster_eq h named rfl
      isRegistered := fun _ _ h named => .of_roster_eq h named rfl
      readAttribute := fun _ _ _ h named => .of_roster_eq h named rfl
      wording := fun _ _ h named => .of_roster_eq h named rfl }
  spares := spares
  valid := trivial
  empty := rfl

end Collector

end CacheTelemetry
