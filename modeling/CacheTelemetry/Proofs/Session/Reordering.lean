import CacheTelemetry.Proofs.Session.Subjects

/-!
# Reordered runs

Two runs add and remove caches of a collector, and register and unregister beans in its registry. If
the runs agree on the steps about each single name, in their order, **they come to the same in
everything that does not show the order** (`reordered_runs_agree`): the same names are in the
collector, the same names are registered, and two scrapes end alike up to the order of the samples,
whether failures are isolated or not. How steps about different names are mixed does not matter, and
neither does what is done with names that cannot be evaluated.

Reads must have no effects. A step that adds a cache reads its name, so names must come to the same
wherever in the run they are read; the other reads come at the end, and may look at anything but the
order.
-/

namespace CacheTelemetry.Session

open Effect

variable {w v v' : World} {p : Place}

/-- Two worlds are the same outside a collector, which finds the same beans in its registry and has
the same caches under the same names, in any order. -/
structure World.HoldsTheSame (v v' : World) (p : Place) : Prop where
  beside : v'.Beside p v
  beans : ∀ n, v.holder p (.bean n) = v'.holder p (.bean n)
  entries : (v.collectorAt p).roster.entries.Perm (v'.collectorAt p).roster.entries

/-- Reads have no effects. Those of names, with which the steps begin, do not look at what the steps
change; all others may do so, but do not see an order in it. -/
structure World.ReadsPlainly (w : World) (p : Place) : Prop extends w.NamesPlainly p where
  scripts : ∀ v, w.Beside p v → w.ScriptsFixed nested fun u => u.HoldsTheSame v p

/-! ### Answers -/

namespace World.HoldsTheSame

theorem refl (v : World) (p : Place) : v.HoldsTheSame v p := ⟨rfl, fun _ => rfl, .refl _⟩

/-- A scrape of the collector finds the same. -/
theorem looksLike (same : v.HoldsTheSame v' p) :
    v'.LooksLike (v'.collectorAt p).registry v where
  caches := same.beside.congr World.caches
  beans := same.beside.congr World.beans
  surroundings := same.beside.congr World.surroundings
  found n := by
    have found := same.beans n
    rwa [World.holder, same.beside.registry] at found

/-- What the collector reads is fixed on the worlds that hold the same. -/
theorem readsFixed (plain : w.ReadsPlainly p) (beside : w.Beside p v) :
    (collectorIn nested p).ReadsFixed fun u => u.HoldsTheSame v p := by
  have fixed : v.ScriptsFixed nested fun u => u.HoldsTheSame v p :=
    (plain.scripts v beside).of_same (beside.congr World.caches) (beside.congr World.beans)
      (beside.congr World.surroundings)
  refine readsFixed_of_scriptsFixed fixed (fun u same => same.looksLike)
    (fun u same => same.beside.registry) (fun u same => ?_)
    fun _ _ same => ⟨same.beside, same.beans, same.entries⟩
  have shelf : u.settings = v.settings := same.beside.congr World.settings
  rw [World.settingsAt, World.settingsAt, shelf, same.beside.settings]

variable (same : v.HoldsTheSame v' p)

include same

/-- The same values are names of caches. -/
theorem contains (name : Value Callable) :
    (((collectorIn nested p).contains name).runFrom v).1 =
      (((collectorIn nested p).contains name).runFrom v').1 := by
  have present : (v.collectorAt p).roster.contains name = (v'.collectorAt p).roster.contains name :=
    same.entries.any_eq
  rw [Collector.contains]
  split
  · rfl
  · exact congrArg Except.ok present

theorem size : (v.collectorAt p).roster.size = (v'.collectorAt p).roster.size :=
  same.entries.length_eq

variable (plain : w.ReadsPlainly p) (beside : w.Beside p v')

include plain beside

/-- The registry gives the same answers whether names are registered. -/
theorem isRegistered (n : ObjectName) :
    (((collectorIn nested p).isRegistered n).runFrom v).1 =
      (((collectorIn nested p).isRegistered n).runFrom v').1 := by
  rw [((readsFixed plain beside).isRegistered n).runFrom_eq same (.refl v' p)]

/-- Scrapes end alike up to the order of the samples. -/
theorem collect : AlikeUpToOrder ((collectorIn nested p).collect.runFrom v).1
    ((collectorIn nested p).collect.runFrom v').1 := by
  have fixed := readsFixed plain beside
  exact (fixed.steady same).collect_perm (fixed.steady (.refl v' p))
    (fixed.outlook_eq same (.refl v' p)) same.entries

end World.HoldsTheSame

/-! ### Runs -/

/-- Runs that agree on the steps about each single name lead to worlds that hold the same. -/
theorem holdsTheSame_of_reordered (plain : w.NamesPlainly p) (held : p < w.collectors.length)
    (texts : Collector.HasTextKeys (w.collectorAt p).roster) {steps steps' : List Step}
    (acts : ∀ step ∈ steps, step.ActsOn w p) (acts' : ∀ step ∈ steps', step.ActsOn w p)
    (reordered : ∀ s, (steps.filter fun step => step.subject w = some s) =
      steps'.filter fun step => step.subject w = some s) :
    (worldAfter steps w).HoldsTheSame (worldAfter steps' w) p := by
  obtain ⟨around, names, holder⟩ := holder_worldAfter plain rfl texts held acts
  obtain ⟨around', names', holder'⟩ := holder_worldAfter plain rfl texts held acts'
  have agree : ∀ s, (worldAfter steps w).holder p s = (worldAfter steps' w).holder p s := by
    intro s
    rw [holder, holder', reordered]
  exact ⟨around.trans around'.symm, fun n => agree (.bean n),
    Collector.entries_perm_of_get? names names' fun name => agree (.cache name)⟩

/-- **The order of independent registrations is immaterial.** After two runs that agree on the steps
about each single name, the same values are names of caches, the collector has the same size, the
same names are registered, and two scrapes both fail, or both return the same samples in each
family. -/
theorem reordered_runs_agree (plain : w.ReadsPlainly p) (held : p < w.collectors.length)
    (texts : Collector.HasTextKeys (w.collectorAt p).roster) {steps steps' : List Step}
    (acts : ∀ step ∈ steps, step.ActsOn w p) (acts' : ∀ step ∈ steps', step.ActsOn w p)
    (reordered : ∀ s, (steps.filter fun step => step.subject w = some s) =
      steps'.filter fun step => step.subject w = some s) :
    let v := worldAfter steps w
    let v' := worldAfter steps' w
    let c := collectorIn nested p
    (∀ name, ((c.contains name).runFrom v).1 = ((c.contains name).runFrom v').1) ∧
    (c.roster v).size = (c.roster v').size ∧
    (∀ n, ((c.isRegistered n).runFrom v).1 = ((c.isRegistered n).runFrom v').1) ∧
    AlikeUpToOrder (c.collect.runFrom v).1 (c.collect.runFrom v').1 := by
  have same := holdsTheSame_of_reordered plain.toNamesPlainly held texts acts acts' reordered
  have beside : w.Beside p (worldAfter steps' w) :=
    (holder_worldAfter plain.toNamesPlainly rfl texts held acts').1
  exact ⟨same.contains, same.size, same.isRegistered plain beside, same.collect plain beside⟩

/-- A bean and two caches of one manager. -/
def twoCaches : World :=
  { (default : World) with
    beans := [⟨"bean", .stored,
      .ofList (Statistic.all.map fun st => (st.attrName, .value (.int 7)))⟩]
    caches := [⟨"first", .text "a", .text "m"⟩, ⟨"second", .text "b", .text "m"⟩]
    beanIds := .ofList [("bean", 0)]
    cacheIds := .ofList [("first", 0), ("second", 1)] }

/-- The bean is registered for one of the caches. -/
def registerForFirst : Step :=
  .registerBean .main (.text "javax.cache:type=CacheStatistics,CacheManager=m,Cache=a") "bean"

theorem readsPlainly_twoCaches : twoCaches.ReadsPlainly 0 where
  scripts _ _ := scriptsFixed_of_isQuiet (by decide +kernel)
  names cache mem := by
    have quiet : ∀ cache ∈ twoCaches.caches, cache.name.isQuiet = true := by decide +kernel
    exact fixedOn_of_isQuiet (quiet cache mem)
  texts := by
    have first : twoCaches.entryKey 0 = .ok (.text "a") := rfl
    have second : twoCaches.entryKey 1 = .ok (.text "b") := rfl
    have others : ∀ x, twoCaches.entryKey (x + 2) = .ok (.text "") := fun _ => rfl
    rintro (_ | _ | x) key read -
    · exact ⟨"a", (Except.ok.inj (first.symm.trans read)).symm⟩
    · exact ⟨"b", (Except.ok.inj (second.symm.trans read)).symm⟩
    · exact ⟨"", (Except.ok.inj ((others x).symm.trans read)).symm⟩

/-- The caches come in in one order and in the other, with the bean registered after and before. -/
theorem reordered_runs_agree_twoCaches :
    AlikeUpToOrder
      ((collectorIn nested 0).collect.runFrom (worldAfter
        [.addCache mainId "first", .addCache mainId "second", registerForFirst] twoCaches)).1
      ((collectorIn nested 0).collect.runFrom (worldAfter
        [registerForFirst, .addCache mainId "second", .addCache mainId "first"] twoCaches)).1 := by
  have first : (Step.addCache mainId "first").subject twoCaches = some (.cache "a") := by
    decide +kernel
  have second : (Step.addCache mainId "second").subject twoCaches = some (.cache "b") := by
    decide +kernel
  obtain ⟨n, third⟩ : ∃ n, registerForFirst.subject twoCaches = some (.bean n) :=
    ⟨((ObjectName.parse "javax.cache:type=CacheStatistics,CacheManager=m,Cache=a").toOption).get
      (by decide +kernel), by decide +kernel⟩
  have known : twoCaches.collectorIds.get? mainId = some 0 := by decide +kernel
  have registers : registerForFirst.ActsOn twoCaches 0 := ⟨rfl, .pure (NameArgument.text _)⟩
  refine (reordered_runs_agree readsPlainly_twoCaches (by decide) ?_ ?_ ?_ ?_).2.2.2
  · intro key mem
    cases mem
  · simp only [List.forall_mem_cons, List.not_mem_nil]
    exact ⟨known, known, registers, fun _ h => h.elim⟩
  · simp only [List.forall_mem_cons, List.not_mem_nil]
    exact ⟨registers, known, known, fun _ h => h.elim⟩
  · intro s
    simp only [List.filter_cons, List.filter_nil, first, second, third, Option.some.injEq]
    -- no two of the steps are about the same
    cases s with
    | bean m => simp
    | cache name =>
      by_cases own : "a" = name
      · subst own
        simp
      · simp [own]

end CacheTelemetry.Session
