import CacheTelemetry.Proofs.Collector.Hosted
import CacheTelemetry.Proofs.Registry.Patterns
import CacheTelemetry.Proofs.Session.Quiet

/-!
# Patterns in scrapes

A scrape does not ask the registry about a pattern. `Collector.askStatistics` is the look for
statistics without this exception, and `Collector.collectBy look` is the scrape in which statistics
are looked for by `look`; with the collector's own way of looking it is the scrape as it is
(`collectBy_readStatistics`).

If in all states of a scrape two ways of looking do the same, the scrapes do the same
(`runFrom_collectBy`). A management registry answers for a pattern as the exception does, so **over
such registries it makes no difference whether the exception is there** (`pattern_guards_agree`),
even if the registry changes in the course of the scrape.
-/

namespace CacheTelemetry

namespace Collector

open Effect

variable {σ κ χ β : Type} [BEq κ] {c : Collector σ κ χ} {h : Host σ κ β} {s t : σ}
  {look : ObjectName → Effect σ (Option Counts)} {n : ObjectName}

/-! ### Ways of looking for statistics -/

/-- The counts under an object name, if there are statistics. The registry is asked about patterns
as well. -/
def askStatistics (c : Collector σ κ χ) (n : ObjectName) : Effect σ (Option Counts) := do
  if ← c.hasStatistics n then
    return some (← Counts.readAll (c.readCount n))
  return none

/-- Reads the statistics of one cache, which are looked for by `look`. -/
def visitBy (c : Collector σ κ χ) (look : ObjectName → Effect σ (Option Counts))
    (label : Value κ) (cache : χ) : Effect σ Visit := do
  let n ← c.nameFor label cache
  let found : Effect σ Visit := do
    match ← look n with
    | some counts => return .sampled counts
    | none => return .unregistered
  let outcome ← tryCatch found (c.handleFailure label n)
  if outcome = .unregistered then
    c.note ("No statistics registered for cache " ++ label.quoted ++ " (" ++ n.canonical ++ ")")
  return outcome

/-- The readings of a list of caches whose statistics are looked for by `look`. -/
def visitAllBy (c : Collector σ κ χ) (look : ObjectName → Effect σ (Option Counts)) :
    List (Value κ × χ) → Effect σ (List (Reading κ))
  | [] => return []
  | (label, cache) :: rest => do
    let outcome ← c.visitBy look label cache
    let readings ← c.visitAllBy look rest
    match outcome with
    | .sampled counts => return ⟨label, counts⟩ :: readings
    | _ => return readings

/-- The six families of a scrape in which statistics are looked for by `look`. -/
def collectBy (c : Collector σ κ χ) (look : ObjectName → Effect σ (Option Counts)) :
    Effect σ (List (Family κ)) := do
  return Family.allOf (← c.visitAllBy look (c.roster (← get)).entries)

/-- Patterns are the only names that are not asked about. -/
theorem readStatistics_eq (c : Collector σ κ χ) (n : ObjectName) :
    c.readStatistics n = if n.isPattern then pure none else c.askStatistics n := rfl

theorem visitAllBy_readStatistics (c : Collector σ κ χ) (entries : List (Value κ × χ)) :
    c.visitAllBy c.readStatistics entries = c.visitAll entries := by
  induction entries with
  | nil => rfl
  | cons e rest ih =>
    rw [visitAllBy, visitAll, ih]
    rfl

/-- A scrape that looks for statistics as the collector does is the scrape as it is. -/
theorem collectBy_readStatistics (c : Collector σ κ χ) :
    c.collectBy c.readStatistics = c.collect := by
  rw [collectBy, collect, scrape, bind_assoc]
  exact bind_congr fun s => by rw [visitAllBy_readStatistics]

/-! ### The same scrape -/

section

variable (same : ∀ t, c.Reached s t → ∀ n, (look n).runFrom t = (c.readStatistics n).runFrom t)

include same

/-- Visits that look for statistics to the same effect do the same. -/
theorem agree_visitBy (reached : c.Reached s t) (label : Value κ) (cache : χ) :
    Agree (fun t u => t = u ∧ c.Reached s t) (c.visitBy look label cache) t
      (c.visit label cache) t := by
  have itself := Reached.simulates c s
  refine (itself.nameFor ⟨rfl, reached⟩ label cache).bind fun n t₁ u₁ h₁ => ?_
  refine Agree.bind (.tryCatch ?_ fun f _ _ h₂ => itself.handleFailure h₂ label n f)
    fun outcome _ _ h₂ => ?_
  · have looked : Agree (fun t u => t = u ∧ c.Reached s t) (look n) t₁ (c.readStatistics n) u₁ := by
      obtain ⟨rfl, reached₁⟩ := h₁
      have own := itself.readStatistics ⟨rfl, reached₁⟩ n
      rw [Agree, same t₁ reached₁ n]
      exact own
    refine looked.bind fun found _ _ h₂ => ?_
    cases found <;> exact .pure h₂ _
  · split
    · exact (itself.note h₂ _).bind fun _ _ _ h₃ => .pure h₃ _
    · exact .pure h₂ _

/-- So do walks. -/
theorem agree_visitAllBy (reached : c.Reached s t) (entries : List (Value κ × χ)) :
    Agree (fun t u => t = u ∧ c.Reached s t) (c.visitAllBy look entries) t
      (c.visitAll entries) t := by
  -- the walks go through the same states, each of which the scrape reaches
  induction entries generalizing t with
  | nil => exact .pure ⟨rfl, reached⟩ _
  | cons e rest ih =>
    refine (agree_visitBy same reached e.1 e.2).bind fun outcome t₁ u₁ h₁ => ?_
    obtain ⟨rfl, reached₁⟩ := h₁
    refine (ih reached₁).bind fun readings _ _ h₂ => ?_
    cases outcome <;> exact .pure h₂ _

/-- Scrapes that look for statistics to the same effect are the same. -/
theorem runFrom_collectBy : (c.collectBy look).runFrom s = c.collect.runFrom s := by
  obtain ⟨outcome, state, -⟩ := agree_visitAllBy same .start (c.roster s).entries
  have walked : (c.visitAllBy look (c.roster s).entries).runFrom s =
      (c.visitAll (c.roster s).entries).runFrom s := Prod.ext outcome state
  rw [collectBy, runFrom_get_bind, runFrom_bind, walked, runFrom_collect]
  rcases (c.visitAll (c.roster s).entries).runFrom s with ⟨f | readings, t⟩ <;> rfl

end

/-! ### Management registries -/

/-- A management registry that came about by requests is asked about a pattern in vain. -/
theorem runFrom_askStatistics_of_isPattern (hosted : c.IsHosted h s) (reached : c.Reached s t)
    (requested : (h.registry t).IsRequested) (pattern : n.isPattern = true) :
    (c.askStatistics n).runFrom t = (.ok none, t) := by
  have answer : (c.isRegistered n).runFrom t = (.ok (.bool false), t) := by
    rw [hosted.isRegistered t reached n, h.runFrom_isRegistered,
      (requested.bars pattern).isRegistered]
  have asked : (c.hasStatistics n).runFrom t = (.ok false, t) :=
    hasStatistics_eq_ok_iff.2 ⟨.bool false, answer, rfl⟩
  rw [askStatistics, runFrom_bind_of_ok asked]
  rfl

/-- Over such registries it makes no difference whether patterns are asked about. -/
theorem runFrom_askStatistics (hosted : c.IsHosted h s) (reached : c.Reached s t)
    (requested : (h.registry t).IsRequested) (n : ObjectName) :
    (c.askStatistics n).runFrom t = (c.readStatistics n).runFrom t := by
  rw [readStatistics_eq]
  split
  · rename_i pattern
    exact runFrom_askStatistics_of_isPattern hosted reached requested pattern
  · rfl

/-- **The tests for wildcards agree.** A management registry that came about by requests bars every
pattern, so a name is registered exactly if it is a key, and exactly if reading attributes finds a
bean under it. A scrape that asks about patterns as about all other names is the scrape that does
not, if throughout it the collector asks such registries. -/
theorem pattern_guards_agree :
    (∀ r : Registry β, r.IsRequested →
      (∀ p : ObjectName, p.isPattern = true → r.Bars p) ∧
        ∀ n, (r.isRegistered n = true ↔ n ∈ r.keys) ∧
          (r.isRegistered n = true ↔ ∃ bean, r.Finds n bean)) ∧
      ∀ (c : Collector σ κ χ) (h : Host σ κ β) (s : σ), c.IsHosted h s →
        (∀ t, c.Reached s t → (h.registry t).IsRequested) →
        (∀ n, c.readStatistics n = if n.isPattern then pure none else c.askStatistics n) ∧
          c.collectBy c.readStatistics = c.collect ∧
          (c.collectBy c.askStatistics).runFrom s = c.collect.runFrom s := by
  refine ⟨fun r requested => ⟨fun p => requested.bars, fun n => ?_⟩,
    fun c h s hosted requested => ⟨c.readStatistics_eq, c.collectBy_readStatistics, ?_⟩⟩
  · exact ⟨requested.isRegistered_iff_mem_keys, requested.isRegistered_iff_finds⟩
  · exact runFrom_collectBy fun t reached n =>
      runFrom_askStatistics hosted reached (requested t reached) n

open Session in
/-- A cache with a wildcard in its name and one without, in a registry that was asked to register a
bean for each of them. -/
def starredWorld : World :=
  { (default : World) with
    beans := [⟨"bean", .stored,
      .ofList (Statistic.all.map fun st => (st.attrName, .value (.int 7)))⟩]
    caches := [⟨"starred", .text "users*", .text "m"⟩, ⟨"plain", .text "users", .text "m"⟩]
    collectors := [⟨.platform, 0, .ofList [(.text "users*", 0), (.text "users", 1)]⟩]
    platform := Registry.serveAll ∅
      [.register (.text "javax.cache:type=CacheStatistics,CacheManager=m,Cache=users*") 0,
        .register (.text "javax.cache:type=CacheStatistics,CacheManager=m,Cache=users") 0] }

/-- The bean of the starred cache is refused and the other one is not; asking about the pattern
gives the samples of the other cache and nothing else, as not asking does. -/
theorem pattern_guards_agree_starredWorld :
    (∃ p, ObjectName.parse "javax.cache:CacheManager=m,type=CacheStatistics,Cache=users*" = .ok p ∧
      p.isPattern = true ∧ starredWorld.platform.Bars p) ∧
      starredWorld.platform.isRegistered Session.usersName = true ∧
      (∃ bean, starredWorld.platform.Finds Session.usersName bean) ∧
      ((Session.collector 0).collectBy (Session.collector 0).askStatistics).runFrom starredWorld =
        (Session.collector 0).collect.runFrom starredWorld := by
  have quiet : starredWorld.isQuiet = true := by decide +kernel
  have hosted : (Session.collector 0).IsHosted Session.platformHost starredWorld :=
    Session.isHosted_of_platform rfl
  have requested : starredWorld.platform.IsRequested := ⟨_, rfl⟩
  have throughout : ∀ w, (Session.collector 0).Reached starredWorld w →
      (Session.platformHost.registry w).IsRequested := by
    intro w reached
    obtain ⟨journal, rfl⟩ := Session.reached_of_isQuiet quiet reached
    exact requested
  have registered : starredWorld.platform.isRegistered Session.usersName = true := by
    decide +kernel
  obtain ⟨registries, scrapes⟩ := pattern_guards_agree (σ := Session.World)
    (κ := Session.Callable) (χ := Session.Place) (β := Session.Place)
  obtain ⟨bars, queries⟩ := registries starredWorld.platform requested
  obtain ⟨p, parsed, pattern⟩ : ∃ p, ObjectName.parse
      "javax.cache:CacheManager=m,type=CacheStatistics,Cache=users*" = .ok p ∧
      p.isPattern = true := by
    have star : (ObjectName.parse
        "javax.cache:CacheManager=m,type=CacheStatistics,Cache=users*").toOption.any
        ObjectName.isPattern = true := by decide +kernel
    rcases hp : ObjectName.parse "javax.cache:CacheManager=m,type=CacheStatistics,Cache=users*" with
      fault | p <;> rw [hp] at star
    · cases star
    · exact ⟨p, rfl, star⟩
  exact ⟨⟨p, parsed, pattern, bars p pattern⟩, registered, (queries _).2.1 registered,
    (scrapes _ _ _ hosted throughout).2.2⟩

end Collector

end CacheTelemetry
