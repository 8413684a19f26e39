import CacheTelemetry.Log
import CacheTelemetry.Metric.Family
import CacheTelemetry.OrderedMap
import CacheTelemetry.Wording

/-!
# Collectors

A collector keeps a roster of caches by name and reads their statistics when it is scraped. What it
needs of the world around it is the structure `Collector`: its place in the state, and the foreign
code that it calls. Foreign code may change the state in any way, the roster included, and may fail.
The texts that go into messages are foreign code too.

The name of a cache is read when the cache is added, and is its key from then on. A cache without a
name goes by the empty text. The name is read twice, first to see whether there is one.
-/

namespace CacheTelemetry

instance {κ : Type} [BEq κ] : BEq (Value κ) := ⟨Datum.sameKey⟩

/-- Caches of type `χ` by name, in the order in which the names came in. -/
abbrev Roster (κ χ : Type) [BEq κ] := OrderedMap (Value κ) χ

/-- A collector in a state of type `σ`: where its parts are, and the foreign code around it. -/
structure Collector (σ κ χ : Type) [BEq κ] where
  /-- The roster of the collector. -/
  roster : σ → Roster κ χ
  /-- Puts another roster into the state. -/
  setRoster : Roster κ χ → σ → σ
  /-- The settings of the collector, as they are at the moment. -/
  settings : σ → Settings
  /-- The name that a cache gives itself. -/
  cacheName : χ → Effect σ (Value κ)
  /-- The address of the manager of a cache. If the address is not plain data, what it does to
  become a text is part of this. -/
  managerUri : χ → Effect σ (Value κ)
  /-- The registry's answer whether a name is registered. -/
  isRegistered : ObjectName → Effect σ (Value κ)
  /-- The registry's value of an attribute. -/
  readAttribute : ObjectName → String → Effect σ (Value κ)
  /-- The texts of foreign values and errors. -/
  wording : Wording σ κ
  /-- Writes a record to the log. -/
  log : LogRecord → σ → σ

namespace Collector

variable {σ κ χ : Type} [BEq κ]

/-- Writes a record of detail. -/
def note (c : Collector σ κ χ) (message : String) : Effect σ Unit :=
  modify (c.log (.detail .collector message))

/-- The name under which a cache is entered; null and the empty text are one name. -/
def entryName (c : Collector σ κ χ) (cache : χ) : Effect σ (Value κ) := do
  match ← c.cacheName cache with
  | .null => return .text ""
  | _ => c.cacheName cache

/-- Enters a cache under its name, in the place of a cache that had the name before. -/
def add [DecidableEq χ] (c : Collector σ κ χ) (cache : χ) : Effect σ Unit := do
  let name ← c.entryName cache
  if !name.isKey then throw (.unhashable name.sort)
  let roster := c.roster (← get)
  modify (c.setRoster (roster.insert name cache))
  match roster.get? name with
  | some previous =>
    c.note ((if previous = cache then "Added" else "Replaced") ++ " monitored cache " ++
      name.quoted)
  | none => c.note ("Added monitored cache " ++ name.quoted)

/-- Removes the cache with a name and gives it back, if there is one. -/
def remove (c : Collector σ κ χ) (name : Option String) : Effect σ (Option χ) := do
  let key : Value κ := .text (name.getD "")
  let roster := c.roster (← get)
  modify (c.setRoster (roster.erase key))
  match roster.get? key with
  | some cache =>
    c.note ("Removed monitored cache " ++ key.quoted)
    return some cache
  | none => return none

/-- Removes all caches. -/
def clear (c : Collector σ κ χ) : Effect σ Unit := do
  modify (c.setRoster ∅)
  c.note "Cleared all monitored caches"

/-- A value is the name of a cache in the roster; lists and tables cannot be asked for. -/
def contains (c : Collector σ κ χ) (name : Value κ) : Effect σ Bool := do
  if !name.isKey then throw (.unhashable name.sort)
  return (c.roster (← get)).contains name

/-- The families that a collector describes, whichever it is: the six, without samples. -/
def describe : List (Family κ) := Family.blank

/-- The collector in text: the names of its caches in the order of code points, and its settings. -/
def text (c : Collector σ κ χ) (s : σ) : Except Fault String := do
  let names ← (c.roster s).keys.mapM (Value.written Value.plain)
  let list : Value κ := .list ((names.mergeSort fun a b => a ≤ b).map .text)
  return "CacheMetricsCollector(caches=" ++ list.quoted ++ ", config=" ++ (c.settings s).text ++ ")"

end Collector

end CacheTelemetry
