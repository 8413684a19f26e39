import CacheTelemetry.Proofs.Session.Fixed

/-!
# Quiet worlds

A world is *quiet* if no script in it that a scrape may come to evaluate performs a step or counts
its calls: the addresses of the caches, the members of the beans, the scripted answers, and the
bodies of whatever callables these give.

**A scrape in a quiet world changes nothing but the log** (`reached_of_isQuiet`), so its collectors
are steady (`steady_of_isQuiet`) and the answers of its registries are pure.
-/

namespace CacheTelemetry.Session

open Effect

/-- A value that is read without effects: if it is a callable, calling it has none. -/
def isQuietValue : Value Callable → Bool
  | .special (.thunk body) => body.isQuiet
  | .special (.counter _ _) => false
  | _ => true

/-- A member that is read without effects. -/
def BeanMember.isQuiet : BeanMember → Bool
  | .value v => isQuietValue v
  | .script s => s.isQuiet

/-- Scripted answers that are given without effects. -/
def ScriptedAnswers.isQuiet (answers : ScriptedAnswers) : Bool :=
  answers.isRegistered.values.all Script.isQuiet &&
  answers.attrs.values.all fun scripts => scripts.values.all Script.isQuiet

/-- Nothing that a scrape may come to evaluate has effects. -/
def World.isQuiet (w : World) : Bool :=
  (w.caches.all fun cache => cache.uri.isQuiet) &&
  (w.beans.all fun bean => bean.members.values.all BeanMember.isQuiet) &&
  w.surroundings.scripted.values.all ScriptedAnswers.isQuiet

/-! ### Quiet scripts -/

mutual

/-- A quiet script has its outcome without the state, and gives no callable but quiet ones. -/
theorem evaluate_of_isQuiet (perform : Performer) :
    ∀ {s : Script}, s.isQuiet = true →
      ∃ r, evaluate perform s = ofExcept r ∧ ∀ v, r = .ok v → isQuietValue v = true
  | .null, _ => ⟨.ok .null, rfl, by rintro _ ⟨⟩; rfl⟩
  | .bool b, _ => ⟨.ok (.bool b), rfl, by rintro _ ⟨⟩; rfl⟩
  | .int i, _ => ⟨.ok (.int i), rfl, by rintro _ ⟨⟩; rfl⟩
  | .float x, _ => ⟨.ok (.float x), rfl, by rintro _ ⟨⟩; rfl⟩
  | .text s, _ => ⟨.ok (.text s), rfl, by rintro _ ⟨⟩; rfl⟩
  | .integer s, _ => by
    refine ⟨(integerOf s).map .int, ?_, ?_⟩
    · rw [evaluate]
      cases integerOf s <;> rfl
    · intro v h
      cases hs : integerOf s <;> rw [hs] at h <;> cases h
      rfl
  | .decimal s, _ => by
    refine ⟨(decimalOf s).map .float, ?_, ?_⟩
    · rw [evaluate]
      cases decimalOf s <;> rfl
    · intro v h
      cases hs : decimalOf s <;> rw [hs] at h <;> cases h
      rfl
  | .list items, h => by
    rw [Script.isQuiet] at h
    obtain ⟨r, hr⟩ := evaluateItems_of_quietItems perform h
    refine ⟨r.map .list, ?_, ?_⟩
    · rw [evaluate, hr]
      cases r <;> rfl
    · intro v hv
      cases r <;> cases hv
      rfl
  | .dict entries, h => by
    rw [Script.isQuiet] at h
    obtain ⟨r, hr⟩ := evaluateEntries_of_quietEntries perform h true
    refine ⟨r.map fun values => .dict (mergeEntries values), ?_, ?_⟩
    · rw [evaluate, hr]
      cases r <;> rfl
    · intro v hv
      cases r <;> cases hv
      rfl
  | .raise kind text, _ => ⟨.error (.raised kind text), rfl, by rintro _ ⟨⟩⟩
  | .call body, h => ⟨.ok (.special (.thunk body)), rfl, by rintro _ ⟨⟩; exact h⟩
  | .counter _ _, h => by cases h
  | .perform _ _, h => by cases h

/-- So have quiet scripts one after the other. -/
theorem evaluateItems_of_quietItems (perform : Performer) :
    ∀ {items : List Script}, quietItems items = true →
      ∃ r, evaluateItems perform items = ofExcept r
  | [], _ => ⟨.ok [], rfl⟩
  | s :: rest, h => by
    rw [quietItems, Bool.and_eq_true] at h
    obtain ⟨r, hr, -⟩ := evaluate_of_isQuiet perform h.1
    obtain ⟨r', hr'⟩ := evaluateItems_of_quietItems perform h.2
    refine ⟨r.bind fun v => r'.map (v :: ·), ?_⟩
    rw [evaluateItems, hr, hr']
    cases r <;> cases r' <;> rfl

/-- So have pairs of quiet scripts. -/
theorem evaluateEntries_of_quietEntries (perform : Performer) :
    ∀ {entries : List (Script × Script)}, quietEntries entries = true → ∀ keyed : Bool,
      ∃ r, evaluateEntries perform keyed entries = ofExcept r
  | [], _, _ => ⟨.ok [], rfl⟩
  | (k, v) :: rest, h, keyed => by
    rw [quietEntries, Bool.and_eq_true, Bool.and_eq_true] at h
    obtain ⟨rk, hk, -⟩ := evaluate_of_isQuiet perform h.1.1
    obtain ⟨rv, hv, -⟩ := evaluate_of_isQuiet perform h.1.2
    obtain ⟨r, hr⟩ := evaluateEntries_of_quietEntries perform h.2 keyed
    rw [evaluateEntries, hk, hv, hr]
    -- the key is tested after the value has been evaluated
    rcases rk with f | key
    · exact ⟨.error f, rfl⟩
    rcases rv with f | value
    · exact ⟨.error f, rfl⟩
    simp only [ofExcept_ok_bind]
    split
    · exact ⟨_, rfl⟩
    · refine ⟨r.map ((key, value) :: ·), ?_⟩
      cases r <;> rfl

end

/-! ### Quiet worlds -/

variable {perform : Performer} {P : World → Prop} {w w' : World}

/-- A quiet script has a fixed outcome. -/
theorem fixedOn_of_isQuiet {s : Script} (h : s.isQuiet = true) :
    FixedOn P (evaluate perform s) := by
  obtain ⟨r, hr, -⟩ := evaluate_of_isQuiet perform h
  rw [hr]
  exact .ofExcept r

/-- A quiet value that is a callable is called with a fixed outcome. -/
theorem isFixedValue_of_isQuiet {v : Value Callable} (h : isQuietValue v = true) :
    IsFixedValue perform P v := by
  cases v with
  | special callable =>
    cases callable with
    | thunk body => exact fixedOn_of_isQuiet (s := body) h
    | counter cell start => cases h
  | _ => trivial

/-- A quiet member has a fixed outcome. -/
theorem BeanMember.isFixed_of_isQuiet {member : BeanMember} (h : member.isQuiet = true) :
    member.IsFixed perform P := by
  cases member with
  | value v => exact isFixedValue_of_isQuiet h
  | script s =>
    obtain ⟨r, hr, given⟩ := evaluate_of_isQuiet perform (s := s) h
    refine ⟨r, fun w _ => ?_, fun v hv => isFixedValue_of_isQuiet (given v hv)⟩
    rw [hr, runFrom_ofExcept]

/-- The scripted answers of each registry are quiet if all that there are in the surroundings
are. -/
theorem World.isQuiet_scripted
    (quiet : ∀ answers ∈ w.surroundings.scripted.values, answers.isQuiet = true)
    (ref : RegistryRef) : (w.scripted ref).isQuiet = true := by
  cases ref with
  | platform => rfl
  | named id =>
    rw [World.scripted]
    cases found : w.surroundings.scripted.get? id with
    | none => rfl
    | some answers => exact quiet answers (OrderedMap.mem_values_of_get?_eq_some found)

/-- The scripts of a quiet world have fixed outcomes. -/
theorem scriptsFixed_of_isQuiet (h : w.isQuiet = true) : w.ScriptsFixed perform P := by
  simp only [World.isQuiet, Bool.and_eq_true, List.all_eq_true, and_assoc] at h
  obtain ⟨uris, members, scripted⟩ := h
  have answers := World.isQuiet_scripted scripted
  simp only [ScriptedAnswers.isQuiet, Bool.and_eq_true, List.all_eq_true] at answers
  exact
    { uris := fun cache mem => fixedOn_of_isQuiet (uris cache mem)
      members := fun bean hb member hm => BeanMember.isFixed_of_isQuiet (members bean hb member hm)
      registered := fun ref s mem => fixedOn_of_isQuiet ((answers ref).1 s mem)
      attrs := fun ref given ha s hs => fixedOn_of_isQuiet ((answers ref).2 given ha s hs) }

/-- The world is another one in which other records may stand in the log. -/
def World.SameButLog (w v : World) : Prop := ∃ journal, v = { w with journal := journal }

theorem World.SameButLog.refl (w : World) : w.SameButLog w := ⟨w.journal, rfl⟩

theorem World.SameButLog.log (record : LogRecord) (v : World) (h : w.SameButLog v) :
    w.SameButLog (v.log record) := by
  obtain ⟨journal, rfl⟩ := h
  exact ⟨record :: journal, rfl⟩

theorem World.SameButLog.looksLike (ref : RegistryRef) {v : World} (h : w.SameButLog v) :
    w.LooksLike ref v := by
  obtain ⟨journal, rfl⟩ := h
  refine ⟨rfl, rfl, rfl, fun n => ?_⟩
  cases ref <;> rfl

/-- What a collector of a quiet world reads does not depend on the log. -/
theorem readsFixed_of_isQuiet (h : w.isQuiet = true) (p : Place) :
    (collectorIn perform p).ReadsFixed w.SameButLog := by
  refine readsFixed_of_scriptsFixed (scriptsFixed_of_isQuiet h) (fun v same => same.looksLike _)
    ?_ ?_ World.SameButLog.log
  · rintro _ ⟨journal, rfl⟩
    rfl
  · rintro _ ⟨journal, rfl⟩
    rfl

/-- A scrape in a quiet world changes nothing but the log. -/
theorem reached_of_isQuiet (h : w.isQuiet = true) {p : Place}
    (reached : (collectorIn perform p).Reached w w') :
    ∃ journal, w' = { w with journal := journal } :=
  (readsFixed_of_isQuiet h p).readsKeep.reached (.refl w) reached

/-- Throughout a scrape in a quiet world the answers of the registry are pure. -/
theorem answersPurely_of_isQuiet (h : w.isQuiet = true) {p : Place}
    (reached : (collectorIn perform p).Reached w w') :
    (collectorIn perform p).AnswersPurely w' :=
  (readsFixed_of_isQuiet h p).answersPurely (reached_of_isQuiet h reached)

/-- The collectors of a quiet world are steady. -/
theorem steady_of_isQuiet (h : w.isQuiet = true) (p : Place) : (collectorIn perform p).Steady w :=
  (readsFixed_of_isQuiet h p).steady (.refl w)

end CacheTelemetry.Session
