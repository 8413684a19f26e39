import CacheTelemetry.Proofs.Session.Keeping
import CacheTelemetry.Proofs.Session.Quiet
import CacheTelemetry.Proofs.Settings.Origin

/-!
# Assignments in a session

A step that assigns a value to the settings of a collector is answered with what the settings become
(`reportOn_assign`). **Such steps make of the settings what the assignments make of them**, one
after the other, and change nothing else in the world but the log (`sameButLog_assignSteps`).
Collectors that share the settings have them in the same place.
-/

namespace CacheTelemetry.Session

open Effect

variable {w : World} {id : String} {p : Place}

/-- The steps that assign values to the settings of a collector. -/
def assignSteps (id : String) (as : List (String × Document.Value)) : List Step :=
  as.map fun a => .assign id a.1 a.2

/-- The answer to an assignment, for settings to which the value is assigned. -/
def assignAnswer (s : Settings) (a : String × Document.Value) : Except Fault Answer :=
  match s.assign a.1 a.2 with
  | .ok changed => .ok (.settings changed)
  | .error fault => .error (.ofAssignment a.1 fault)

/-- The world with other settings for a collector: what assignments make of those that it has. -/
def World.assignAll (w : World) (p : Place) (as : List (String × Document.Value)) : World :=
  { w with settings := w.settings.modify (w.collectorAt p).settings fun s => s.assignAll as }

theorem World.assignAll_nil (w : World) (p : Place) : w.assignAll p [] = w := by
  have same : (w.settings.modify (w.collectorAt p).settings fun s => s.assignAll []) =
      w.settings := List.modify_id _ _
  rw [World.assignAll, same]

theorem World.assignAll_cons (w : World) (p : Place) (a : String × Document.Value)
    (as : List (String × Document.Value)) :
    w.assignAll p (a :: as) = (w.assignAll p [a]).assignAll p as := by
  have same : (w.settings.modify (w.collectorAt p).settings fun s => s.assignAll (a :: as)) =
      (w.settings.modify (w.collectorAt p).settings fun s => s.assignAll [a]).modify
        (w.collectorAt p).settings fun s => s.assignAll as := by
    rw [List.modify_modify_eq]
    rfl
  rw [World.assignAll, same]
  rfl

/-- The settings of the collector are those that the assignments make. -/
theorem World.settingsAt_assignAll {s : Settings}
    (held : w.settings[(w.collectorAt p).settings]? = some s)
    (as : List (String × Document.Value)) :
    (w.assignAll p as).settingsAt (w.collectorAt p).settings = s.assignAll as := by
  rw [World.assignAll, World.settingsAt, List.getElem?_modify_eq, held]
  rfl

/-- An assignment is answered with what the settings become, and changes nothing else. -/
theorem runFrom_assign (known : w.collectorIds.get? id = some p) (a : String × Document.Value) :
    (assign id a.1 a.2).runFrom w =
      (assignAnswer (w.settingsAt (w.collectorAt p).settings) a, w.assignAll p [a]) := by
  have changed : (w.settings.modify (w.collectorAt p).settings fun s => s.assignAll [a]) =
      w.settings.set (w.collectorAt p).settings
        ((w.settingsAt (w.collectorAt p).settings).assigned a) := List.modify_eq_set _ _ _
  rw [World.assignAll, changed, Settings.assigned, assignAnswer, assign,
    runFrom_bind_of_ok (runFrom_collectorPlace known), runFrom_get_bind]
  dsimp only
  cases (w.settingsAt (w.collectorAt p).settings).assign a.1 a.2 with
  | ok settings => rfl
  | error fault =>
    -- the settings are put back where they were
    have same : w.settings.set (w.collectorAt p).settings
        (w.settingsAt (w.collectorAt p).settings) = w.settings := by
      rw [World.settingsAt]
      by_cases there : (w.collectorAt p).settings < w.settings.length
      · rw [List.getElem?_eq_getElem there, Option.getD_some, List.set_getElem_self]
      · rw [List.set_eq_of_length_le (Nat.le_of_not_lt there)]
    rw [same]
    rfl

theorem reportOn_assign (known : w.collectorIds.get? id = some p)
    (a : String × Document.Value) :
    reportOn (.assign id a.1 a.2) w =
      (⟨assignAnswer (w.settingsAt (w.collectorAt p).settings) a, []⟩,
        { w.assignAll p [a] with journal := [] }) := by
  have run := runFrom_assign (w := { w with journal := [] }) known a
  rw [reportOn, perform_eq_execute, execute, run]
  rfl

/-- **Assignments in a session** make of the settings of the collector what they make of settings,
and change nothing else. -/
theorem sameButLog_assignSteps (known : w.collectorIds.get? id = some p)
    (as : List (String × Document.Value)) :
    (w.assignAll p as).SameButLog (worldAfter (assignSteps id as) w) := by
  induction as generalizing w with
  | nil =>
    rw [World.assignAll_nil]
    exact .refl w
  | cons a as ih =>
    -- the first step leaves the collector known, with its settings in the same place
    have first : (reportOn (.assign id a.1 a.2) w).2 =
        { w.assignAll p [a] with journal := [] } := by
      rw [reportOn_assign known]
    obtain ⟨journal, later⟩ := ih (w := { w.assignAll p [a] with journal := [] }) known
    refine ⟨journal, ?_⟩
    rw [World.assignAll_cons]
    show worldAfter (assignSteps id as) (reportOn (.assign id a.1 a.2) w).2 = _
    rw [first, later]
    rfl

end CacheTelemetry.Session
