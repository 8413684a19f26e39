import CacheTelemetry.Proofs.Collector.Walk
import CacheTelemetry.Proofs.Registry.History
import CacheTelemetry.Proofs.Registry.Reading
import CacheTelemetry.Proofs.Session.Quiet
import CacheTelemetry.Session.Run

/-!
# Finding what was registered

Whoever registers a bean writes a name: a domain, and three properties in some order. Whoever
scrapes composes a name from the settings, from the address of a manager and from the name of a
cache. The two meet, however the properties were ordered: **a bean registered under such a text is
sampled for the cache, and nothing else is** (`collect_discovers`).

That the two names meet is `Settings.parse_of_nameOf`; that the bean stays under the name is
`Registry.RegisteredSince.exists_get?`. What the collector is connected with is a hypothesis on
every state that a scrape may pass through, `Collector.LooksUp`; so reads may have effects as long
as they keep the connection.
-/

namespace CacheTelemetry

namespace Collector

open Effect ObjectName

variable {σ κ χ β : Type} [BEq κ] {c : Collector σ κ χ} {s t u : σ} {reg : σ → Registry β}
  {view : σ → β → BeanView σ κ} {call : κ → Effect σ (Value κ)} {word : Wording σ κ}
  {settings : Settings} {cache : χ} {uri name : String}

/-- In a state the collector asks the registry `reg`, whose beans are read by `view` and `call` and
whose errors are put into words by `word`, under the given settings, and the manager of a cache has
the given address. -/
structure LooksUp (c : Collector σ κ χ) (reg : σ → Registry β) (view : σ → β → BeanView σ κ)
    (call : κ → Effect σ (Value κ)) (word : Wording σ κ) (settings : Settings) (cache : χ)
    (uri : String) (s : σ) : Prop where
  isRegistered : ∀ n, (c.isRegistered n).runFrom s = (.ok (.bool ((reg s).isRegistered n)), s)
  readAttribute : ∀ n (st : Statistic), (c.readAttribute n st.attrName).runFrom s =
    ((reg s).readAttribute (view s) call word n st.attrName).runFrom s
  settings : c.settings s = settings
  managerUri : ((c.managerUri cache).runFrom s).1 = .ok (.text uri)

section

variable (looks : ∀ w, c.Reached s w → c.LooksUp reg view call word settings cache uri w)

include looks

/-- The name for an entry is composed of the settings and the address. -/
theorem runFrom_nameFor_of_looks (name : String) (reached : c.Reached s t) :
    ∃ u, c.Reached s u ∧ (c.nameFor (.text name) cache).runFrom t =
      (settings.nameOf (.text uri : Value κ) (.text name), u) := by
  have read : (c.managerUri cache).runFrom t =
      (.ok (.text uri), ((c.managerUri cache).runFrom t).2) :=
    Prod.ext (looks t reached).managerUri rfl
  refine ⟨_, reached.managerUri cache, ?_⟩
  rw [runFrom_nameFor read, (looks _ (reached.managerUri cache)).settings]

/-- A bean with six integers that is registered under the name of an entry is sampled. -/
theorem visit_of_registered (reached : c.Reached s t) {n : ObjectName} {bean : β}
    (hn : settings.nameOf (.text uri : Value κ) (.text name) = .ok n)
    (pattern : n.isPattern = false)
    (registered : ∀ w, c.Reached s w → (reg w).get? n = some bean)
    (integers : ∀ w, c.Reached s w → (view w bean).HasIntegers call w) :
    ∃ k u, (c.visit (.text name) cache).runFrom t = (.ok (.sampled k), u) ∧
      ∀ st, ∃ w w', c.Reached s w ∧
        (view w bean).GivesInt call st.attrName (k.get st) w w' := by
  obtain ⟨u, reached_u, named⟩ := runFrom_nameFor_of_looks looks name reached
  rw [hn] at named
  -- whatever the reads do, the bean stays registered and its attributes stay integers
  have read : ∀ st v, c.Reached s v →
      ∃ i w, c.Reached s w ∧ (c.readCount n st).runFrom v = (.ok i, w) := by
    intro st v reached_v
    obtain ⟨i, w, gives⟩ := integers v reached_v st
    have value : (c.readAttribute n st.attrName).runFrom v = (.ok (.int i), w) := by
      rw [(looks v reached_v).readAttribute]
      exact Registry.readAttribute_eq_int_iff.2 ⟨bean, registered v reached_v, gives⟩
    exact ⟨i, w, (reached_v.readAttribute n st).after value, readCount_eq_ok_iff.2 value⟩
  obtain ⟨k, v, hk⟩ := exists_readAll read reached_u
  have reads := readAll_eq_ok_iff.1 hk
  have answer : (c.isRegistered n).runFrom u = (.ok (.bool true), u) := by
    rw [(looks u reached_u).isRegistered, Registry.isRegistered, pattern,
      OrderedMap.contains_eq_isSome_get?, registered u reached_u]
    rfl
  refine ⟨k, v, visit_eq_sampled_iff.2 ⟨n, u, named, ?_⟩, fun st => ?_⟩
  · exact readStatistics_eq_some_iff.2 ⟨pattern, .bool true, u, answer, rfl, reads⟩
  · obtain ⟨w, w', reached_w, value⟩ := reads.exists_reached reached_u st (Statistic.mem_all st)
    rw [(looks w reached_w).readAttribute] at value
    obtain ⟨bean', found, gives⟩ := Registry.readAttribute_eq_int_iff.1 value
    rw [registered w reached_w] at found
    cases found
    exact ⟨w, w', reached_w, gives⟩

/-- An entry is sampled only if a name with its domain and its properties is registered. -/
theorem exists_key_of_visit (reached : c.Reached s t) {k : Counts}
    (h : (c.visit (.text name) cache).runFrom t = (.ok (.sampled k), u)) :
    ∃ w, c.Reached s w ∧ ∃ m ∈ (reg w).keys, m.domain = settings.domain.val ∧
      m.properties.Perm (settings.propertiesOf uri name) := by
  obtain ⟨n, v, hn, hr⟩ := visit_eq_sampled_iff.1 h
  obtain ⟨v', reached_v, named⟩ := runFrom_nameFor_of_looks looks name reached
  obtain ⟨composed, rfl⟩ := Prod.mk.inj (named.symm.trans hn)
  obtain ⟨-, answer, v'', ha, truth, -⟩ := readStatistics_eq_some_iff.1 hr
  rw [(looks v' reached_v).isRegistered] at ha
  cases ha
  have present : (reg v').contains n = true := (Bool.and_eq_true_iff.1 truth).2
  exact ⟨v', reached_v, n, OrderedMap.mem_keys_of_contains present,
    Settings.parts_of_nameOf composed⟩

end

/-- **What is registered under the name of an entry is found, and nothing else is.** A bean that was
registered under a text with the domain of the settings and the three properties in any order is
sampled with the integers that it gives during the scrape. If no name with this domain and these
properties is registered, there is no sample for the entry. -/
theorem collect_discovers
    (looks : ∀ w, c.Reached s w → c.LooksUp reg view call word settings cache uri w)
    (entry : (.text name, cache) ∈ (c.roster s).entries)
    (huri : Avoids isMark uri) (hname : Avoids isMark name) {families : List (Family κ)}
    (returned : c.collect.runFrom s = (.ok families, t)) :
    (∀ (ps : List Property) (bean : β), ps.Perm (settings.propertiesOf uri name) →
      (∀ w, c.Reached s w →
        Registry.RegisteredSince (written settings.domain.val ps) bean (reg w)) →
      (∀ w, c.Reached s w → (view w bean).HasIntegers call w) →
      ∀ f ∈ families, ∃ i w w', c.Reached s w ∧
        (view w bean).GivesInt call f.statistic.attrName i w w' ∧
        (.text name, i) ∈ f.samples) ∧
    ((∀ w, c.Reached s w → ∀ m ∈ (reg w).keys, ¬ (m.domain = settings.domain.val ∧
        m.properties.Perm (settings.propertiesOf uri name))) →
      ∀ f ∈ families, ∀ i, (.text name, i) ∉ f.samples) := by
  obtain ⟨readings, hreadings, rfl⟩ := collect_eq_ok_iff.1 returned
  constructor
  · intro ps bean order registered integers f hf
    obtain ⟨n, hn, pattern⟩ :=
      settings.exists_nameOf_of_avoids (κ := κ) huri hname
    have found : ∀ w, c.Reached s w → (reg w).get? n = some bean := by
      intro w reached
      obtain ⟨m, parsed, -, hm⟩ := (registered w reached).exists_get?
      cases parsed.symm.trans (Settings.parse_of_nameOf hn order)
      exact hm
    -- the entry is visited in some state of the scrape, and sampled there
    obtain ⟨outcome, u, v, reached, hv, left⟩ := exists_visit_of_mem hreadings entry
    obtain ⟨k, v', sampled, gives⟩ := visit_of_registered looks reached hn pattern found integers
    cases hv.symm.trans sampled
    obtain ⟨st, -, rfl⟩ := List.mem_map.1 hf
    obtain ⟨w, w', reached_w, given⟩ := gives st
    exact ⟨k.get st, w, w', reached_w, given, List.mem_map_of_mem (left k rfl)⟩
  · intro free f hf i sample
    obtain ⟨st, -, rfl⟩ := List.mem_map.1 hf
    obtain ⟨r, hr, heq⟩ := List.mem_map.1 sample
    obtain ⟨⟨label, cache'⟩, he, hlabel, u, v, reached, hv, -⟩ :=
      exists_visit_of_mem_readings hreadings hr
    obtain rfl : label = .text name := hlabel.trans (Prod.mk.inj heq).1
    have self : ((.text name : Value κ) == .text name) = true := beq_self_eq_true name
    -- no other entry goes by the same label
    cases OrderedMap.eq_of_mem_of_mem self entry he
    obtain ⟨w, reached_w, m, hm, parts⟩ := exists_key_of_visit looks reached hv
    exact free w reached_w m hm parts

open Session in
/-- A cache, and a bean with plain and called counts under its name. -/
def discoveredWorld : World :=
  { (default : World) with
    beans := [⟨"bean", .stored, .ofList
      [("CacheHits", .value (.int 1)), ("CacheMisses", .value (.special (.thunk (.int 2)))),
        ("CacheGets", .value (.int 3)), ("CachePuts", .value (.int 4)),
        ("CacheEvictions", .value (.special (.thunk (.int 5)))),
        ("CacheRemovals", .value (.int 6))]⟩]
    caches := [⟨"cache", .text "a,b", .text "m:1"⟩]
    collectors := [⟨.main, 0, .ofList [(.text "a,b", 0)]⟩]
    registries := .ofList [("main", Registry.serve ∅ (.register
      (.text "javax.cache:Cache=a.b,type=CacheStatistics,CacheManager=m.1") 0))] }

/-- The bean is found under its name, though the name was written in another order. -/
theorem collect_discovers_discoveredWorld :
    ∃ families t, (Session.collector 0).collect.runFrom discoveredWorld = (.ok families, t) ∧
      ∀ f ∈ families, ∃ i, (.text "a,b", i) ∈ f.samples := by
  obtain ⟨families, t, returned⟩ := exists_of_isOk
    (r := (Session.collector 0).collect.runFrom discoveredWorld) (by decide +kernel)
  have quiet : discoveredWorld.isQuiet = true := by decide +kernel
  have looks : ∀ w, (Session.collector 0).Reached discoveredWorld w →
      (Session.collector 0).LooksUp (fun w => w.registry .main)
        (Session.beanView fun step => do let _ ← Session.perform step)
        (Session.call fun step => do let _ ← Session.perform step) Session.wording .standard 0
        "m:1" w := by
    intro w reached
    obtain ⟨journal, rfl⟩ := Session.reached_of_isQuiet quiet reached
    exact ⟨fun _ => rfl, fun _ _ => rfl, rfl, rfl⟩
  have entry : (.text "a,b", 0) ∈ ((Session.collector 0).roster discoveredWorld).entries :=
    List.mem_cons_self
  have registered : ∀ w, (Session.collector 0).Reached discoveredWorld w →
      Registry.RegisteredSince (written Settings.standard.domain.val
        [("Cache", "a.b"), ("type", "CacheStatistics"), ("CacheManager", "m.1")]) 0
        (w.registry .main) := by
    intro w reached
    obtain ⟨journal, rfl⟩ := Session.reached_of_isQuiet quiet reached
    exact ⟨[], [], _, Registry.perform_of_isOk (by decide +kernel), by simp, rfl⟩
  have integers : ∀ w, (Session.collector 0).Reached discoveredWorld w →
      (Session.beanView (fun step => do let _ ← Session.perform step) w 0).HasIntegers
        (Session.call fun step => do let _ ← Session.perform step) w := by
    intro w reached st
    obtain ⟨journal, rfl⟩ := Session.reached_of_isQuiet quiet reached
    cases st
    · exact ⟨1, _, .plain (.item (by decide) rfl)⟩
    · exact ⟨2, _, .called (.item (by decide) rfl) rfl⟩
    · exact ⟨3, _, .plain (.item (by decide) rfl)⟩
    · exact ⟨4, _, .plain (.item (by decide) rfl)⟩
    · exact ⟨5, _, .called (.item (by decide) rfl) rfl⟩
    · exact ⟨6, _, .plain (.item (by decide) rfl)⟩
  obtain ⟨found, -⟩ := collect_discovers looks entry (by decide) (by decide) returned
  refine ⟨families, t, returned, fun f hf => ?_⟩
  obtain ⟨i, -, -, -, -, sample⟩ := found _ 0 (by decide +kernel) registered integers f hf
  exact ⟨i, sample⟩

end Collector

end CacheTelemetry
