import CacheTelemetry.Collector.Basic

/-!
# Scraping

A scrape walks over the caches that the roster holds when it begins, in order. For each cache it
composes the object name of its statistics, asks the registry whether there are any, and reads the
six counts. Patterns stand for no statistics. Nothing is remembered from one scrape to the next.

* An object name that cannot be composed ends the scrape.
* So does a failure that cannot be put into words: the words are looked for when the failure is
  reported, and nothing guards that.
* Statistics that cannot be read end the scrape too, unless the settings say that failures are
  isolated: the cache is then skipped with a warning.
* Interruptions always end the scrape.
-/

namespace CacheTelemetry

/-- The statistics name under some settings, from an address and a cache name as they come. -/
def Settings.nameOf {κ : Type} (settings : Settings) (uri label : Value κ) :
    Except Fault ObjectName := do
  let manager ← uri.written Value.sanitized
  let name ← label.written Value.sanitized
  (statisticsName settings.domain.val settings.statisticsType.val manager name).mapError
    .unusableCacheName

namespace Collector

variable {σ κ χ : Type} [BEq κ]

/-- The object name for the statistics of a cache under a label. -/
def nameFor (c : Collector σ κ χ) (label : Value κ) (cache : χ) : Effect σ ObjectName := do
  let uri ← c.managerUri cache
  Effect.ofExcept ((c.settings (← get)).nameOf uri label)

/-- The fault of a registry that raised an error when it was asked for a name. -/
def queryFault (c : Collector σ κ χ) (n : ObjectName) (f : Fault) : Effect σ Fault := do
  return .queryFailed n (← c.wording.say (.error f)) f

/-- The registry's answer, as a truth value, whether statistics are registered. -/
def hasStatistics (c : Collector σ κ χ) (n : ObjectName) : Effect σ Bool := do
  let answer ← (c.isRegistered n).wrapErrors (c.queryFault n)
  return answer.truth

/-- The fault of a registry that raised an error when it was asked for an attribute. -/
def readFault (c : Collector σ κ χ) (n : ObjectName) (attr : String) (f : Fault) :
    Effect σ Fault := do
  return .readFailed n attr (← c.wording.say (.error f)) f

/-- The fault of a registry that gave something else than a count. -/
def countFault (c : Collector σ κ χ) (n : ObjectName) (attr : String) (v : Value κ) :
    Effect σ Fault := do
  return .notCount n attr (← c.wording.say (.value v))

/-- A count read from the registry. Truth values are no counts. -/
def readCount (c : Collector σ κ χ) (n : ObjectName) (s : Statistic) : Effect σ Int := do
  match ← (c.readAttribute n s.attrName).wrapErrors (c.readFault n s.attrName) with
  | .int i => return i
  | v => throw (← c.countFault n s.attrName v)

/-- The counts under an object name, if there are statistics. -/
def readStatistics (c : Collector σ κ χ) (n : ObjectName) : Effect σ (Option Counts) := do
  if n.isPattern then return none
  if ← c.hasStatistics n then
    return some (← Counts.readAll (c.readCount n))
  return none

/-- What becomes of a cache in a scrape. -/
inductive Visit where
  | sampled (counts : Counts)
  | unregistered
  | skipped
  deriving DecidableEq, Repr, Inhabited

/-- A failure to read statistics: the scrape goes on without the cache if failures are isolated. -/
def handleFailure (c : Collector σ κ χ) (label : Value κ) (n : ObjectName) (f : Fault) :
    Effect σ Visit := do
  if f.kind = .statisticsRead ∧ (c.settings (← get)).isolateFailures then
    modify (c.log ⟨.collector, .warning,
      "Skipping cache " ++ label.quoted ++ ": failed to read statistics from " ++ n.canonical,
      some f.kind⟩)
    return .skipped
  throw f

/-- Reads the statistics of one cache. -/
def visit (c : Collector σ κ χ) (label : Value κ) (cache : χ) : Effect σ Visit := do
  let n ← c.nameFor label cache
  let found : Effect σ Visit := do
    match ← c.readStatistics n with
    | some counts => return .sampled counts
    | none => return .unregistered
  let outcome ← tryCatch found (c.handleFailure label n)
  if outcome = .unregistered then
    c.note ("No statistics registered for cache " ++ label.quoted ++ " (" ++ n.canonical ++ ")")
  return outcome

/-- The readings of a list of caches. -/
def visitAll (c : Collector σ κ χ) : List (Value κ × χ) → Effect σ (List (Reading κ))
  | [] => return []
  | (label, cache) :: rest => do
    let outcome ← c.visit label cache
    let readings ← c.visitAll rest
    match outcome with
    | .sampled counts => return ⟨label, counts⟩ :: readings
    | _ => return readings

/-- The readings of all caches in the roster, as the roster is at the beginning. -/
def scrape (c : Collector σ κ χ) : Effect σ (List (Reading κ)) := do
  c.visitAll (c.roster (← get)).entries

/-- The six families of a scrape. -/
def collect (c : Collector σ κ χ) : Effect σ (List (Family κ)) := do
  return Family.allOf (← c.scrape)

end Collector

end CacheTelemetry
