import Turtle.Picture.Ticks
import Turtle.Picture.Box
import Turtle.Geometry.Pose

/-!
# The panels of a path picture

A picture of `n` paths is a figure four inches high and `4n` inches wide, laid out as one row of
`n` panels on a grid: the panels fill the figure between its left and right edges and its
bottom and top edges given as fractions (`Margins`), with gaps between panels of a fraction of
a panel's width. The grid starts from `Margins.initial` and is tightened once the panels have
been measured. Each panel shows one path with equal scales on both axes and the vertical axis
pointing down, under the path's name as its title.

The limits of an axis are the least and greatest finite coordinates of the path (a point with a
coordinate that is not finite is left out), widened when empty or too narrow, with a margin of a
twentieth of the span at each end; limits that reach beyond the largest double fail. Equal
scales then shrink the panel's box to the aspect of the limits, keeping it centred; all of this
is computed in doubles, in the order the layout computes it.
-/

namespace Turtle

/-- The edges of a row of panels as fractions of the figure, and the gap between two panels as
a fraction of a panel's width. -/
structure Margins where
  left : Float
  right : Float
  bottom : Float
  top : Float
  gap : Float

namespace Margins

/-- The grid before the layout is tightened. -/
def initial : Margins := ⟨0.125, 0.9, 0.11, 0.88, 0.2⟩

end Margins

namespace Picture

/-- The panel boxes of a row of `n` panels on the grid `m`, from left to right. -/
def grid (n : Nat) (m : Margins) : List Box :=
  let cellH := (m.top - m.bottom) / (1.0 + 0.2 * 0.0)
  let cellW := (m.right - m.left) / (n.toFloat + m.gap * (n.toFloat - 1.0))
  let sepW := m.gap * cellW
  let normW := cellW * n.toFloat / n.toFloat
  -- running sums of the gaps and widths, panel by panel
  let (_, boxes) := (List.range n).foldl
    (fun (acc, boxes) i =>
      let start := if i == 0 then acc + 0.0 else acc + sepW
      let stop := start + normW
      (stop, boxes.push ({ left := m.left + start, bottom := m.top - (0.0 + cellH),
                           right := m.left + stop, top := m.top - 0.0 } : Box)))
    (0.0, (#[] : Array Box))
  boxes.toList

/-- The limits of an axis showing the given coordinates, all finite. -/
def limits (values : List Float) : Except Fault (Float × Float) :=
  let (lo, hi) := match values with
    | [] => (-1.0 / 0.0, 1.0 / 0.0)
    | v :: vs => (vs.foldl min v, vs.foldl max v)
  let (lo, hi) := Ticks.widen 0.05 1e-15 lo hi
  let delta := (hi - lo) * 0.05
  let delta := if delta.isFinite then delta else 0.0
  let (lo, hi) := Ticks.widen 0.001 1e-15 (lo - delta) (hi + delta)
  if lo.isFinite && hi.isFinite then pure (Ticks.widen 0.05 1e-15 lo hi)
  else throw .limitsNotFinite

/-- The limits of the two axes of a panel. -/
structure View where
  xs : Float × Float
  ys : Float × Float

/-- The limits of a panel showing a path: the horizontal ones first. -/
def viewOf (path : Array Point) : Except Fault View := do
  let pts := path.toList.filter fun p => p.x.isFinite && p.y.isFinite
  let xs ← limits (pts.map (·.x))
  let (ylo, yhi) ← limits (pts.map (·.y))
  pure ⟨xs, Ticks.widen 0.05 1e-15 ylo yhi⟩

/-- The ratio of the vertical to the horizontal span of a view. -/
def View.ratio (v : View) : Float :=
  max (v.ys.2 - v.ys.1).abs 1e-30 / max (v.xs.2 - v.xs.1).abs 1e-30

/-- A panel box shrunk to the aspect `ratio` in a figure of aspect `figAspect` (height over
width), then centred in the box it came from. -/
def Box.fitted (pos : Box) (ratio figAspect : Float) : Box :=
  let w := pos.right - pos.left
  let h := pos.top - pos.bottom
  let tall := w * ratio / figAspect
  let (wd, ht) := if tall ≤ h then (w, tall) else (h * figAspect / ratio, h)
  let shrunk : Box := ⟨pos.left, pos.bottom, pos.left + wd, pos.bottom + ht⟩
  let dx := (pos.left + 0.5 * (w - (shrunk.right - shrunk.left))) - shrunk.left
  let dy := (pos.bottom + 0.5 * (h - (shrunk.top - shrunk.bottom))) - shrunk.bottom
  ⟨shrunk.left + dx, shrunk.bottom + dy, shrunk.right + dx, shrunk.top + dy⟩

end Picture

end Turtle
