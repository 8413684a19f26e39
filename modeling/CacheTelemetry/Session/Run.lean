import CacheTelemetry.Session.Execute

/-!
# Running sessions

A session follows a plan and performs its steps one after the other. Each step leaves a report: what
it answered, or the fault that it ended in, with the records that it wrote to the log in their
order.
-/

namespace CacheTelemetry.Session

/-- What a step left. -/
structure Report where
  outcome : Except Fault Answer
  records : List LogRecord

/-- Performs a step and reports on it. -/
def reportOn (step : Step) (w : World) : Report × World :=
  let (outcome, w') := (perform step).runFrom { w with journal := [] }
  (⟨outcome, w'.journal.reverse⟩, w')

/-- The reports of steps that are performed one after the other. -/
def play : List Step → World → List Report
  | [], _ => []
  | step :: rest, w =>
    let (report, w') := reportOn step w
    report :: play rest w'

/-- The world after steps that are performed one after the other. -/
def worldAfter (steps : List Step) (w : World) : World :=
  steps.foldl (fun w step => (reportOn step w).2) w

/-- The collector in a place, with foreign code that may perform any step. -/
def collector (p : Place) : Collector World Callable Place :=
  collectorIn (fun step => do let _ ← perform step) p

/-- What a session is planned with: the settings of its first collector, what it finds around it,
and its steps. -/
structure Plan where
  settings : Document.Table
  surroundings : Surroundings
  steps : List Step

/-- The reports of a session that follows the plan, or the fields of its settings that are
rejected. -/
def Plan.run (p : Plan) : Except Fault (List Report) :=
  match Settings.ofTable p.settings with
  | .ok settings => .ok (play p.steps (.start settings p.surroundings))
  | .error rejections => .error (.rejected rejections)

/-- The value of a script outside of a session. -/
def evaluateAlone (s : Script) : Except Fault (Value Callable) :=
  ((evaluate (fun step => do let _ ← perform step) s).runFrom default).1

end CacheTelemetry.Session
