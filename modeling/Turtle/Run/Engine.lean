import Turtle.Geometry.Trace

/-!
# The execution engine

A run applies the leaves of a program one by one from a start pose. Before each leaf it checks
for a stop request, pauses (other work may run then, and may ask it to stop), and checks again;
then it applies the leaf and reports the new pose and path sample. A run that has applied every
leaf is completed, even if a stop request arrives during the last report.

The engine is written over any monad: a `Probe` says how the stop request is read, what a pause
does and what a report does, so the same loop serves a stand-alone run (`Run/Trial`) and the
runs of the controller (`Run/Controller`).
-/

namespace Turtle

/-- How a run ended: the last pose, whether every leaf ran, and how many did. -/
structure Outcome where
  pose : Pose
  completed : Bool
  steps : Nat

/-- What an engine run reads and does around its steps, in a monad `m`. -/
structure Probe (m : Type → Type) where
  /-- whether a stop has been requested -/
  stopRequested : m Bool
  /-- the pause before a step -/
  pause : m Unit
  /-- the report after a step: the new pose and, for a move, the new position -/
  report : Pose → Option Point → m Unit

namespace Engine

variable {ι : Type} {m : Type → Type} [Monad m] [MonadExceptOf Fault m]

/-- Runs the agenda from `pose`, `steps` leaves having run before. -/
def loop (probe : Probe m) (cell : Scale) (a : Agenda ι) (pose : Pose) (steps : Nat) : m Outcome :=
  match h : a.next with
  | none => pure ⟨pose, true, steps⟩
  | some (l, rest) => do
    if ← probe.stopRequested then return ⟨pose, false, steps⟩
    probe.pause
    if ← probe.stopRequested then return ⟨pose, false, steps⟩
    let (q, sample) ← liftExcept (pose.step cell l.act)
    probe.report q sample
    loop probe cell rest q (steps + 1)
termination_by a.cost
decreasing_by exact Agenda.cost_next h

/-- Runs a program from `start`, one leaf at a time. -/
def execute (probe : Probe m) (cell : Scale) (p : Program ι) (start : Pose) : m Outcome :=
  loop probe cell p.prune start 0

end Engine

/-- The description of an engine with its cell size and step delay. -/
def Engine.describe (cell : Scale) (stepDelay : Float) : String :=
  "ExecutionEngine(cell_size=" ++ cell.display ++ ", step_delay=" ++ Float.shown stepDelay ++ ")"

end Turtle
