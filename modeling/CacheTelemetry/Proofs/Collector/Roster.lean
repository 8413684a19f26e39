import CacheTelemetry.Proofs.Effect
import CacheTelemetry.Proofs.OrderedMap.History
import CacheTelemetry.Session.Run

/-!
# The roster of a collector

Caches are added and removed, and now and then all are removed. `Calls history s` says that calls on
a collector whose roster was empty at first have led to the state `s`, and that `history` is what
they changed: an added cache was entered under the name that was read for it, a removed name left.
Reading the name of a cache may call the collector in turn; what that changes comes before the cache
is entered. What else happens between calls may change anything but the roster.

**The roster is the ordered map of that history** (`roster_follows_calls`), so the order of the
samples in later scrapes is the order in which the names came in, and removing a name gives back the
cache that was added last under it. Null and the empty text are one name.
-/

namespace CacheTelemetry

namespace Collector

open Effect

variable {σ κ χ : Type} [BEq κ] {c : Collector σ κ χ} {valid : σ → Prop} {s t : σ} {cache : χ}
  {name : String} {f : Fault} {history : List (Change String χ)}

/-- In valid states the roster is what was put there last, and log records do not change it. -/
structure StoresRoster (c : Collector σ κ χ) (valid : σ → Prop) : Prop where
  valid_setRoster : ∀ {s}, valid s → ∀ r, valid (c.setRoster r s)
  valid_log : ∀ {s}, valid s → ∀ record, valid (c.log record s)
  roster_setRoster : ∀ {s}, valid s → ∀ r, c.roster (c.setRoster r s) = r
  roster_log : ∀ {s}, valid s → ∀ record, c.roster (c.log record s) = c.roster s

/-- From a valid state to a valid one with the same roster. -/
structure KeepsRoster (c : Collector σ κ χ) (valid : σ → Prop) (s t : σ) : Prop where
  valid : valid t
  roster : c.roster t = c.roster s

/-- What reading the name of a cache comes to in a call from `s`: a name that is the same whenever
the call reads it, null counting as the empty text, or the fault of a read. The call reads once to
see whether there is a name, and a second time if there is one. -/
inductive NameRead (c : Collector σ κ χ) (cache : χ) (s : σ) : Except Fault String → σ → Prop where
  | null {t : σ} (first : (c.cacheName cache).runFrom s = (.ok .null, t)) :
    NameRead c cache s (.ok "") t
  | text {name : String} {t u : σ} (first : (c.cacheName cache).runFrom s = (.ok (.text name), t))
    (second : (c.cacheName cache).runFrom t = (.ok (.text name), u)) :
    NameRead c cache s (.ok name) u
  | fault {f : Fault} {t : σ} (first : (c.cacheName cache).runFrom s = (.error f, t)) :
    NameRead c cache s (.error f) t
  | laterFault {name : String} {f : Fault} {t u : σ}
    (first : (c.cacheName cache).runFrom s = (.ok (.text name), t))
    (second : (c.cacheName cache).runFrom t = (.error f, u)) : NameRead c cache s (.error f) u

/-- Calls on a collector have led from an empty roster to the state, and made the changes of the
history. When a cache is added, the history so far is that of the state in which the name has been
read. -/
inductive Calls [DecidableEq χ] (c : Collector σ κ χ) (valid : σ → Prop) :
    List (Change String χ) → σ → Prop where
  | start {s : σ} (h : valid s) (empty : c.roster s = ∅) : Calls c valid [] s
  | add {history : List (Change String χ)} {s t : σ} {cache : χ} {name : String}
    (read : c.NameRead cache s (.ok name) t) (calls : Calls c valid history t) :
    Calls c valid (history ++ [.enter name cache]) ((c.add cache).runFrom s).2
  | addFault {history : List (Change String χ)} {s t : σ} {cache : χ} {f : Fault}
    (read : c.NameRead cache s (.error f) t) (calls : Calls c valid history t) :
    Calls c valid history ((c.add cache).runFrom s).2
  | remove {history : List (Change String χ)} {s : σ} (calls : Calls c valid history s)
    (name : Option String) :
    Calls c valid (history ++ [.leave (name.getD "")]) ((c.remove name).runFrom s).2
  | clear {history : List (Change String χ)} {s : σ} (calls : Calls c valid history s) :
    Calls c valid (history ++ [.clear]) (c.clear.runFrom s).2
  | elsewhere {history : List (Change String χ)} {s t : σ} (calls : Calls c valid history s)
    (kept : c.KeepsRoster valid s t) : Calls c valid history t

/-! ### Single calls -/

/-- A cache is entered under the name that is read, or its fault is raised. -/
theorem NameRead.runFrom_entryName {r : Except Fault String} (read : c.NameRead cache s r t) :
    (c.entryName cache).runFrom s = (r.map .text, t) := by
  cases read with
  | null first => rw [entryName, runFrom_bind_of_ok first]; rfl
  | text first second => rw [entryName, runFrom_bind_of_ok first]; exact second
  | fault first => rw [entryName, runFrom_bind_of_error first]; rfl
  | laterFault first second => rw [entryName, runFrom_bind_of_ok first]; exact second

section

variable (stores : c.StoresRoster valid) (h : valid s)

include stores h

/-- A roster that was put into the state is there, also after a record was written. -/
theorem StoresRoster.valid_and_roster (r : Roster κ χ) (record : LogRecord) :
    valid (c.log record (c.setRoster r s)) ∧ c.roster (c.log record (c.setRoster r s)) = r := by
  have put : valid (c.setRoster r s) := stores.valid_setRoster h r
  exact ⟨stores.valid_log put record, (stores.roster_log put record).trans
    (stores.roster_setRoster h r)⟩

/-- Removing a name gives back the cache that has the name and erases the name. -/
theorem StoresRoster.runFrom_remove (name : Option String) :
    ∃ t, (c.remove name).runFrom s = (.ok ((c.roster s).get? (.text (name.getD ""))), t) ∧
      valid t ∧ c.roster t = (c.roster s).erase (.text (name.getD "")) := by
  rw [remove]
  simp only [runFrom_get_bind, runFrom_modify_bind]
  cases (c.roster s).get? (.text (name.getD "")) with
  | none => exact ⟨_, rfl, stores.valid_setRoster h _, stores.roster_setRoster h _⟩
  | some cache => exact ⟨_, rfl, stores.valid_and_roster h _ _⟩

/-- Removing all caches leaves the empty roster. -/
theorem StoresRoster.runFrom_clear :
    ∃ t, c.clear.runFrom s = (.ok (), t) ∧ valid t ∧ c.roster t = ∅ :=
  ⟨_, rfl, stores.valid_and_roster h _ _⟩

end

variable [DecidableEq χ]

/-- Adding a cache inserts it under the key that its name comes to. -/
theorem StoresRoster.runFrom_add_of_entryName (stores : c.StoresRoster valid) {key : Value κ}
    (entered : (c.entryName cache).runFrom s = (.ok key, t)) (isKey : key.isKey = true)
    (h : valid t) :
    ∃ u, (c.add cache).runFrom s = (.ok (), u) ∧ valid u ∧
      c.roster u = (c.roster t).insert key cache := by
  rw [add, runFrom_bind_of_ok entered]
  simp only [isKey, Bool.not_true, Bool.false_eq_true, if_false, runFrom_get_bind,
    runFrom_modify_bind]
  cases (c.roster t).get? key with
  | none => exact ⟨_, rfl, stores.valid_and_roster h _ _⟩
  | some previous => exact ⟨_, rfl, stores.valid_and_roster h _ _⟩

/-- Adding a cache inserts it under the name that is read. -/
theorem StoresRoster.runFrom_add (stores : c.StoresRoster valid)
    (read : c.NameRead cache s (.ok name) t) (h : valid t) :
    ∃ u, (c.add cache).runFrom s = (.ok (), u) ∧ valid u ∧
      c.roster u = (c.roster t).insert (.text name) cache :=
  stores.runFrom_add_of_entryName read.runFrom_entryName rfl h

/-- Adding a cache whose name cannot be read raises the fault of the read, and does nothing else. -/
theorem NameRead.runFrom_add_of_fault (read : c.NameRead cache s (.error f) t) :
    (c.add cache).runFrom s = (.error f, t) := by
  rw [add, runFrom_bind_of_error read.runFrom_entryName]

/-! ### Runs of calls -/

/-- Texts are equal as keys exactly if they are equal. -/
theorem text_beq_text (a b : String) :
    ((.text a : Value κ) == .text b) = decide (a = b) := rfl

/-- What calls have led to is valid, and the roster follows the history. -/
theorem Calls.follows (stores : c.StoresRoster valid) (calls : c.Calls valid history s) :
    valid s ∧ (c.roster s).Follows .text history := by
  induction calls with
  | start h empty =>
    rw [empty]
    exact ⟨h, OrderedMap.follows_empty _⟩
  | @add history s t cache name read _ ih =>
    obtain ⟨u, run, hu, roster⟩ := stores.runFrom_add read ih.1
    rw [run, roster]
    exact ⟨hu, ih.2.enter text_beq_text name cache⟩
  | addFault read _ ih =>
    rw [read.runFrom_add_of_fault]
    exact ih
  | @remove history s _ name ih =>
    obtain ⟨u, run, hu, roster⟩ := stores.runFrom_remove ih.1 name
    rw [run, roster]
    exact ⟨hu, ih.2.leave text_beq_text (name.getD "")⟩
  | @clear history s _ ih =>
    obtain ⟨u, run, hu, roster⟩ := stores.runFrom_clear ih.1
    rw [run, roster]
    exact ⟨hu, OrderedMap.follows_clear _ history⟩
  | elsewhere _ kept ih =>
    rw [kept.roster]
    exact ⟨kept.valid, ih.2⟩

/-- **The roster is the ordered map of what the calls have changed.** Its entries are those of the
history; removing a name gives back the cache that was added last under it, and nothing exactly if
the name is not there, and leaves the other entries as they are; the size is the number of names,
and a text is asked for with success exactly if it is one of them. An added cache comes in if its
name is read; if a read fails, adding it leaves the roster as it was. -/
theorem roster_follows_calls (stores : c.StoresRoster valid) (calls : c.Calls valid history s) :
    (c.roster s).entries = (History.entries history).map (fun e => (.text e.1, e.2)) ∧
      (∀ name, ∃ t,
        (c.remove name).runFrom s = (.ok (History.latest? history (name.getD "")), t) ∧
        (c.roster t).entries =
          (c.roster s).entries.filter fun e => !(e.1 == .text (name.getD ""))) ∧
      (∃ names : List String, (c.roster s).keys = names.map .text ∧ names.Nodup ∧
        (c.roster s).size = names.length ∧
        ∀ name, (History.latest? history name = none ↔ name ∉ names) ∧
          (c.contains (.text name)).runFrom s = (.ok (decide (name ∈ names)), s)) ∧
      (∀ cache name t, c.NameRead cache s (.ok name) t → c.KeepsRoster valid s t →
        ((c.add cache).runFrom s).1 = .ok ()) ∧
      ∀ cache f t, c.NameRead cache s (.error f) t → c.KeepsRoster valid s t →
        ∃ u, (c.add cache).runFrom s = (.error f, u) ∧ c.roster u = c.roster s := by
  obtain ⟨h, follows⟩ := calls.follows stores
  refine ⟨follows, ?_, ?_, ?_, ?_⟩
  · intro name
    obtain ⟨t, run, -, roster⟩ := stores.runFrom_remove h name
    refine ⟨t, ?_, congrArg OrderedMap.entries roster⟩
    rw [run, follows.get?_eq text_beq_text]
  · refine ⟨(History.entries history).map Prod.fst, ?_, ?_, ?_, fun name => ?_⟩
    · rw [OrderedMap.keys, follows, List.map_map, List.map_map]
      rfl
    · exact follows.nodup text_beq_text
    · rw [OrderedMap.size, follows, List.length_map, List.length_map]
    · have present : name ∈ (History.entries history).map Prod.fst ↔
          (History.latest? history name).isSome = true := History.mem_map_entries_iff
      refine ⟨?_, ?_⟩
      · rw [present, Option.not_isSome_iff_eq_none]
      · have asked : (c.contains (.text name)).runFrom s =
            (.ok ((c.roster s).contains (.text name)), s) := rfl
        rw [asked, follows.contains_eq text_beq_text, Bool.eq_iff_iff.2
          (present.symm.trans decide_eq_true_iff.symm)]
  · intro cache name t read kept
    obtain ⟨u, run, -⟩ := stores.runFrom_add read kept.valid
    rw [run]
  · intro cache f t read kept
    exact ⟨t, read.runFrom_add_of_fault, kept.roster⟩

/-- In worlds that have a collector in a place, its roster is what was put there last. -/
theorem storesRoster_session (p : Session.Place) :
    (Session.collector p).StoresRoster fun w => p < w.collectors.length where
  valid_setRoster {w} h r := by
    have length : ((Session.collector p).setRoster r w).collectors.length =
        w.collectors.length := List.length_modify _ _ _
    rwa [length]
  valid_log h _ := h
  roster_setRoster {w} h r := by
    have there : w.collectors[p]? = some w.collectors[p] := List.getElem?_eq_getElem h
    simp [Session.collector, Session.collectorIn, Session.World.collectorAt,
      Session.World.modifyCollector, there]
  roster_log _ _ := rfl

open Session in
/-- A cache with a name, one without, and one that fails to give its name. -/
def namedCaches : World :=
  { (default : World) with
    caches := [⟨"named", .text "n", .null⟩, ⟨"nameless", .null, .null⟩,
      ⟨"broken", .raise .runtime "no name", .null⟩] }

/-- A name that is removed and added again goes behind one that came in meanwhile, and a cache that
fails to give its name is not entered. -/
theorem roster_follows_calls_namedCaches :
    ∃ w, (Session.collector 0).Calls (fun w => 0 < w.collectors.length)
        [.enter "n" 0, .enter "" 1, .leave "n", .enter "n" 0] w ∧
      ((Session.collector 0).roster w).entries = [(.text "", 1), (.text "n", 0)] := by
  have reads : ∀ w : Session.World, w.caches = namedCaches.caches →
      ((Session.collector 0).cacheName 0).runFrom w = (.ok (.text "n"), w) ∧
        ((Session.collector 0).cacheName 1).runFrom w = (.ok .null, w) ∧
        ((Session.collector 0).cacheName 2).runFrom w =
          (.error (.raised .runtime "no name"), w) := by
    intro w h
    simp only [Session.collector, Session.collectorIn, Session.readCache, runFrom_get_bind, h]
    exact ⟨rfl, rfl, rfl⟩
  have named : ∀ w : Session.World, w.caches = namedCaches.caches →
      (Session.collector 0).NameRead 0 w (.ok "n") w :=
    fun w h => .text (reads w h).1 (reads w h).1
  have start : (Session.collector 0).Calls (fun w => 0 < w.collectors.length) [] namedCaches :=
    .start (by decide) rfl
  have first := Calls.add (named _ (by rfl)) start
  have second := Calls.add (.null (reads _ (by rfl)).2.1) first
  have refused := Calls.addFault (.fault (reads _ (by rfl)).2.2) second
  have removed := refused.remove (some "n")
  have again := Calls.add (named _ (by rfl)) removed
  exact ⟨_, again, (roster_follows_calls (storesRoster_session 0) again).1.trans rfl⟩

end Collector

end CacheTelemetry
