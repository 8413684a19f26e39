import CacheTelemetry.Proofs.Collector.Fixed
import CacheTelemetry.Proofs.OrderedMap
import CacheTelemetry.Session.Objects

/-!
# Reads with fixed outcomes

The scripts of a world that a scrape may come to evaluate are the addresses of the caches, the
members of the beans, the bodies of the callables that these give, and the scripted answers. If they
have the same outcomes in all worlds with some property, and no effects, and if these worlds look
alike to a scrape, then **what a scrape reads is fixed on the property**
(`readsFixed_of_scriptsFixed`).
-/

namespace CacheTelemetry.Session

open Effect

variable {perform : Performer} {P : World → Prop} {w : World} {ref : RegistryRef}

/-- A value that is no callable, or one that is called with a fixed outcome. -/
def IsFixedValue (perform : Performer) (P : World → Prop) : Value Callable → Prop
  | .special callable => FixedOn P (call perform callable)
  | _ => True

/-- The outcome is fixed, and is no callable but one that is called with a fixed outcome. -/
def GivesFixed (perform : Performer) (P : World → Prop) (x : Effect World (Value Callable)) :
    Prop :=
  ∃ r, (∀ w, P w → x.runFrom w = (r, w)) ∧ ∀ v, r = .ok v → IsFixedValue perform P v

/-- A member of a bean that is read with a fixed outcome. -/
def BeanMember.IsFixed (perform : Performer) (P : World → Prop) : BeanMember → Prop
  | .value v => IsFixedValue perform P v
  | .script s => GivesFixed perform P (evaluate perform s)

/-- The scripts of a world that a scrape may come to evaluate are fixed on a property of worlds. -/
structure World.ScriptsFixed (w : World) (perform : Performer) (P : World → Prop) : Prop where
  uris : ∀ cache ∈ w.caches, FixedOn P (evaluate perform cache.uri)
  members : ∀ bean ∈ w.beans, ∀ member ∈ bean.members.values, member.IsFixed perform P
  registered : ∀ ref, ∀ s ∈ (w.scripted ref).isRegistered.values, FixedOn P (evaluate perform s)
  attrs : ∀ ref, ∀ answers ∈ (w.scripted ref).attrs.values, ∀ s ∈ answers.values,
    FixedOn P (evaluate perform s)

/-- Another world has the same caches, beans and surroundings, and the same beans under each name in
a registry. -/
structure World.LooksLike (w : World) (ref : RegistryRef) (v : World) : Prop where
  caches : v.caches = w.caches
  beans : v.beans = w.beans
  surroundings : v.surroundings = w.surroundings
  found : ∀ n, (v.registry ref).get? n = (w.registry ref).get? n

/-- The scripted answers are those of the surroundings. -/
theorem World.scripted_congr {v : World} (surroundings : v.surroundings = w.surroundings)
    (ref : RegistryRef) : v.scripted ref = w.scripted ref := by
  cases ref <;> simp only [World.scripted, surroundings]

/-- Whether scripts are fixed does not depend on the rest of the world. -/
theorem World.ScriptsFixed.of_same (fixed : w.ScriptsFixed perform P) {v : World}
    (caches : v.caches = w.caches) (beans : v.beans = w.beans)
    (surroundings : v.surroundings = w.surroundings) : v.ScriptsFixed perform P where
  uris cache mem := fixed.uris cache (caches ▸ mem)
  members bean mem := fixed.members bean (beans ▸ mem)
  registered ref s mem := fixed.registered ref s (World.scripted_congr surroundings ref ▸ mem)
  attrs ref answers mem := fixed.attrs ref answers (World.scripted_congr surroundings ref ▸ mem)

/-! ### Beans -/

/-- The texts for messages are the same in the same surroundings. -/
theorem fixedOn_wording (same : ∀ v, P v → v.surroundings = w.surroundings)
    (what : Wordable Callable) : FixedOn P (wording what) := by
  rw [wording.eq_def]
  split
  · exact .ofExcept _
  · rename_i names
    refine .get_bind (fun v hv => ?_)
      (.pure (Fault.takenSeries (w.surroundings.listing names)).message)
    rw [same v hv]
  · exact .ofExcept _

namespace GivesFixed

variable {x : Effect World (Value Callable)}

theorem throw (f : Fault) : GivesFixed perform P (MonadExcept.throw f) :=
  ⟨.error f, fun _ _ => rfl, by rintro _ ⟨⟩⟩

theorem pure {v : Value Callable} (h : IsFixedValue perform P v) :
    GivesFixed perform P (Pure.pure v) :=
  ⟨.ok v, fun _ _ => rfl, by rintro _ ⟨⟩; exact h⟩

theorem wrapErrors (h : GivesFixed perform P x) {wrap : Fault → Effect World Fault}
    (anew : ∀ f, FixedOn P (wrap f)) : GivesFixed perform P (x.wrapErrors wrap) := by
  obtain ⟨r, run, given⟩ := h
  cases r with
  | ok v => exact ⟨.ok v, fun w hw => wrapErrors_eq_ok_iff.2 (run w hw), given⟩
  | error f =>
    -- whatever raising the error anew comes to, it is no value
    have failed : ∃ g, ∀ w, P w → (x.wrapErrors wrap).runFrom w = (.error g, w) := by
      by_cases error : f.isError = true
      · obtain ⟨g | g, made⟩ := anew f
        · exact ⟨g, fun w hw =>
            wrapErrors_eq_error_iff.2 (.inl ⟨f, w, run w hw, error, .inr (made w hw)⟩)⟩
        · exact ⟨g, fun w hw =>
            wrapErrors_eq_error_iff.2 (.inl ⟨f, w, run w hw, error, .inl (made w hw)⟩)⟩
      · exact ⟨f, fun w hw => wrapErrors_eq_error_iff.2 (.inr ⟨run w hw, by simpa using error⟩)⟩
    obtain ⟨g, failed⟩ := failed
    exact ⟨.error g, failed, by rintro _ ⟨⟩⟩

end GivesFixed

theorem givesFixed_readMember {bean : Bean}
    (fixed : ∀ member ∈ bean.members.values, member.IsFixed perform P) (absent : String → Fault)
    (attr : String) : GivesFixed perform P (readMember perform absent bean attr) := by
  rw [readMember]
  split
  · rename_i v found
    exact .pure (fixed _ (OrderedMap.mem_values_of_get?_eq_some found))
  · rename_i s found
    exact fixed _ (OrderedMap.mem_values_of_get?_eq_some found)
  · exact .throw _

section

variable (fixed : ∀ bean ∈ w.beans, ∀ member ∈ bean.members.values, member.IsFixed perform P)
  (same : ∀ v, P v → v.surroundings = w.surroundings)

include same in
/-- What an error of a bean is raised anew as. -/
theorem fixedOn_operationFault (n : ObjectName) (attr : String) (f : Fault) :
    FixedOn P (BeanView.operationFault wording n attr f) :=
  (Wording.fixedOn_say (fixedOn_wording same) _).bind fun _ => .pure _

include same in
theorem fixedOn_memberFault (n : ObjectName) (attr : String) (f : Fault) :
    FixedOn P (BeanView.memberFault wording n attr f) := by
  unfold BeanView.memberFault
  split
  · exact .pure _
  · exact fixedOn_operationFault same n attr f

include fixed same

/-- What a bean keeps for an attribute. -/
theorem givesFixed_fetch (p : Place) (n : ObjectName) (attr : String) :
    GivesFixed perform P ((beanView perform w p).fetch wording n attr) := by
  rw [beanView]
  split
  · rw [BeanView.fetch]
    split <;> exact .throw _
  rename_i bean found
  have members := fixed bean (List.mem_of_getElem? found)
  -- beans of the two sorts of mappings are read alike
  have mapping : GivesFixed perform P ((BeanView.mapping bean.members.keys
      (readMember perform .unknownId bean)).fetch wording n attr) := by
    rw [BeanView.fetch]
    split
    · exact givesFixed_readMember members _ attr
    · exact .throw _
  split
  · exact mapping
  · exact mapping
  · exact (givesFixed_readMember members _ attr).wrapErrors (fixedOn_memberFault same n attr)

/-- The value of an attribute under a name. -/
theorem fixedOn_readAttribute (r : Registry Place) (n : ObjectName) (attr : String) :
    FixedOn P (r.readAttribute (beanView perform w) (call perform) wording n attr) := by
  rw [Registry.readAttribute]
  split
  · exact .throw _
  · rename_i p _
    obtain ⟨x, run, given⟩ := givesFixed_fetch fixed same p n attr
    refine .bind_of run fun v hv => ?_
    split
    · exact FixedOn.wrapErrors (given _ hv) (fixedOn_operationFault same n attr)
    · exact .pure _

end

/-! ### Reads of a scrape -/

theorem fixedOn_readCache {part : Cache → Script}
    (fixed : ∀ cache ∈ w.caches, FixedOn P (evaluate perform (part cache)))
    (same : ∀ v, P v → v.caches = w.caches) (x : Place) :
    FixedOn P (readCache perform part x) := by
  rcases held : w.caches[x]? with _ | cache
  · refine .get_bind (fun v hv => ?_) (.pure .null)
    simp only [same v hv, held]
  · refine .get_bind (fun v hv => ?_) (fixed cache (List.mem_of_getElem? held))
    simp only [same v hv, held]

section

variable (fixed : w.ScriptsFixed perform P) (like : ∀ v, P v → w.LooksLike ref v)

include fixed like

/-- The answer of a registry whether a name is registered. -/
theorem fixedOn_askRegistered (n : ObjectName) : FixedOn P (askRegistered perform ref n) := by
  have scripted : ∀ v, P v → v.scripted ref = w.scripted ref :=
    fun v hv => World.scripted_congr (like v hv).surroundings ref
  have unscripted : ∀ v, P v → (v.registry ref).isRegistered n =
      (w.registry ref).isRegistered n := by
    intro v hv
    rw [Registry.isRegistered, Registry.isRegistered, OrderedMap.contains_eq_isSome_get?,
      OrderedMap.contains_eq_isSome_get?, (like v hv).found]
  rcases answer : (w.scripted ref).isRegistered.get? n.canonical with _ | script
  · refine .get_bind (fun v hv => ?_) (.pure (.bool ((w.registry ref).isRegistered n)))
    simp only [scripted v hv, answer, unscripted v hv]
  · refine .get_bind (fun v hv => ?_)
      (fixed.registered ref script (OrderedMap.mem_values_of_get?_eq_some answer))
    simp only [scripted v hv, answer]

/-- The answer of a registry to a question for an attribute. -/
theorem fixedOn_askAttribute (n : ObjectName) (attr : String) :
    FixedOn P (askAttribute perform ref n attr) := by
  have scripted : ∀ v, P v → v.scripted ref = w.scripted ref :=
    fun v hv => World.scripted_congr (like v hv).surroundings ref
  have unscripted : ∀ v, P v →
      (v.registry ref).readAttribute (beanView perform v) (call perform) wording n attr =
        (w.registry ref).readAttribute (beanView perform w) (call perform) wording n attr := by
    intro v hv
    have view : beanView perform v = beanView perform w := by
      funext p
      rw [beanView, beanView, (like v hv).beans]
    rw [Registry.readAttribute, Registry.readAttribute, (like v hv).found, view]
  rcases answer : ((w.scripted ref).attrs.get? n.canonical).bind fun answers => answers.get? attr
    with _ | script
  · refine .get_bind (fun v hv => ?_) (fixedOn_readAttribute fixed.members
      (fun v hv => (like v hv).surroundings) (w.registry ref) n attr)
    simp only [scripted v hv, answer, unscripted v hv]
  · obtain ⟨answers, hanswers, hscript⟩ := Option.bind_eq_some_iff.1 answer
    refine .get_bind (fun v hv => ?_)
      (fixed.attrs ref answers (OrderedMap.mem_values_of_get?_eq_some hanswers) script
        (OrderedMap.mem_values_of_get?_eq_some hscript))
    simp only [scripted v hv, answer]

end

/-- What the collector in a place reads is fixed, if scripts are, in worlds that look alike to it
and have the same settings and registry for it. -/
theorem readsFixed_of_scriptsFixed {p : Place} (fixed : w.ScriptsFixed perform P)
    (like : ∀ v, P v → w.LooksLike (w.collectorAt p).registry v)
    (registry : ∀ v, P v → (v.collectorAt p).registry = (w.collectorAt p).registry)
    (settings : ∀ v, P v → v.settingsAt (v.collectorAt p).settings =
      w.settingsAt (w.collectorAt p).settings)
    (log : ∀ record v, P v → P (v.log record)) : (collectorIn perform p).ReadsFixed P where
  settings s t hs ht := (settings s hs).trans (settings t ht).symm
  managerUri := fixedOn_readCache fixed.uris fun v hv => (like v hv).caches
  isRegistered n :=
    .get_bind (fun v hv => by rw [registry v hv]) (fixedOn_askRegistered fixed like n)
  readAttribute n st :=
    .get_bind (fun v hv => by rw [registry v hv]) (fixedOn_askAttribute fixed like n st.attrName)
  wording := fixedOn_wording fun v hv => (like v hv).surroundings
  log := log

end CacheTelemetry.Session
