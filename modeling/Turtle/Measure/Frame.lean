import Turtle.Geometry.Trace

/-!
# The step table of a run

The step table has one row per executed leaf of an uninterrupted run, numbered from one: the
leaf's identifier, kind and parameter, the pose after it, and whether it drew (moved the pen).
-/

namespace Turtle

/-- One row of a step table. -/
structure FrameRow (ι : Type) where
  /-- the position of the step in the run, from one -/
  step : Nat
  id : ι
  kind : Kind
  value : Int
  /-- the pose after the step -/
  pose : Pose
  /-- the step added a point to the path -/
  moved : Bool

variable {ι : Type}

/-- The row of the `i`-th visit of a run, counted from zero. -/
def Visit.row (v : Visit ι) (i : Nat) : FrameRow ι :=
  { step := i + 1, id := v.leaf.id, kind := v.leaf.act.kind, value := v.leaf.act.value,
    pose := v.pose, moved := v.sample.isSome }

/-- The step table of an uninterrupted run of a program from `start`. -/
def Program.frame (cell : Scale) (p : Program ι) (start : Pose) : Except Fault (List (FrameRow ι)) := do
  let visits ← p.trace cell start
  pure (visits.zipIdx.map fun (v, i) => v.row i)

end Turtle
