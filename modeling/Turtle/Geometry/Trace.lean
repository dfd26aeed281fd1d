import Turtle.Geometry.Pose
import Turtle.Program.Leaves

/-!
# The trace of an uninterrupted run

`Program.trace` applies the leaves of a program one by one from a start pose and records, for
each leaf, the pose after it and the path sample it adds. It walks the pruned program lazily, so
a failing leaf ends the trace before later leaves are unfolded.
-/

namespace Turtle

/-- One executed leaf with the pose after it and the path sample it produced. -/
structure Visit (ι : Type) where
  leaf : Leaf ι
  pose : Pose
  sample : Option Point

variable {ι : Type}

/-- The visits of an uninterrupted run of a program from `start`, in order. -/
def Program.trace (cell : Scale) (p : Program ι) (start : Pose) : Except Fault (List (Visit ι)) := do
  let (_, visits) ← Agenda.foldlM
    (fun (pose, acc) (l : Leaf ι) => do
      let (q, sample) ← pose.step cell l.act
      pure (q, ⟨l, q, sample⟩ :: acc))
    (start, ([] : List (Visit ι))) p.prune
  pure visits.reverse

end Turtle
