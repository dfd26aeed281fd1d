import Turtle.Run.Engine

/-!
# A stand-alone run under a stop plan

A `StopPlan` says how a single engine run is asked to stop: the request may be set before the
run (and possibly cleared again), set by the report callback on its `n`-th call, or set by a
second task that yields to the run a number of times and then sets it. With zero delays every
pause of the run yields exactly once, so the second task runs its steps at the run's pauses:
it starts before the run's first step, and each pause of the run lets it take one step.

`Trial.run` runs a program under a plan and returns the outcome, the reports received and whether
the stop request is set once both tasks are done.
-/

namespace Turtle

/-- How a stand-alone run is asked to stop. -/
structure StopPlan where
  /-- the request is set before the run -/
  preset : Bool := false
  /-- the request is cleared again before the run -/
  clearBefore : Bool := false
  /-- the report callback sets the request on this call -/
  atReport : Option Nat := none
  /-- a second task yields this many times, then sets the request -/
  afterYields : Option Nat := none
  /-- a report callback is attached -/
  observed : Bool := true

/-- The state of a stand-alone run. -/
structure Trial where
  /-- the stop request -/
  stopped : Bool
  /-- the reports received, in order -/
  reports : Array (Pose × Option Point) := #[]
  /-- the yields the second task still makes before it sets the request; none once it has -/
  yieldsLeft : Option Nat := none

namespace Trial

/-- One turn of the second task: finish a yield, then set the request or yield again. -/
def otherTurn (t : Trial) : Trial :=
  match t.yieldsLeft with
  | none => t
  | some 0 => { t with stopped := true, yieldsLeft := none }
  | some (k + 1) => { t with yieldsLeft := some k }

/-- The state when the run starts: the request as the plan presets it, and the second task's
first turn, which it takes before the run's first step. -/
def initial (plan : StopPlan) : Trial :=
  let t : Trial := { stopped := plan.preset && !plan.clearBefore }
  match plan.afterYields with
  | none => t
  | some 0 => { t with stopped := true }
  | some (k + 1) => { t with yieldsLeft := some k }

/-- What the run reads and does under the plan. -/
def probe (plan : StopPlan) : Probe (StateT Trial (Except Fault)) where
  stopRequested := do pure (← get).stopped
  pause := modify otherTurn
  report pose sample := do
    if plan.observed then
      modify fun t => { t with reports := t.reports.push (pose, sample) }
      if plan.atReport == some (← get).reports.size then
        modify fun t => { t with stopped := true }

/-- The outcome of a run under the plan, the final state of the run (the second task having
finished too), and nothing else. -/
def run {ι : Type} (plan : StopPlan) (cell : Scale) (p : Program ι) (start : Pose) :
    Except Fault (Outcome × Trial) := do
  let (out, t) ← (Engine.execute (probe plan) cell p start).run (initial plan)
  -- the second task, awaited after the run, sets the request if it has not yet
  let t := if t.yieldsLeft.isSome then { t with stopped := true, yieldsLeft := none } else t
  pure (out, t)

end Trial

end Turtle
