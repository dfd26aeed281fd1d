import Turtle.Geometry.Pose

/-!
# Measures of a drawn path

The length of a path is the sum of its segment lengths, each computed as the square root of
`dx * dx + dy * dy` (so a coordinate difference beyond about `1e154` overflows to infinity), and
summed pairwise: blocks of up to 128 lengths are added in eight interleaved lanes that are then
combined as a balanced tree, and longer runs are split in two at a multiple of eight. The whole
sum is added to zero once more at the end, which is what turns a negative zero positive.

The bounds of a path are the least and greatest coordinates on each axis, scanning the points in
order; a NaN coordinate propagates, and of two equal coordinates the later is kept, so that the
sign of a zero bound is that of the last zero seen.
-/

namespace Turtle

/-- The sum of the `n` numbers of `xs` from index `start`, added pairwise. -/
def pairwiseSum (xs : Array Float) (start n : Nat) : Float :=
  let item (i : Nat) : Float := xs.getD (start + i) 0.0
  if n < 8 then
    (List.range n).foldl (fun acc i => acc + item i) (-0.0)
  else if n ≤ 128 then
    let whole := n - n % 8
    let lanes := (List.range (whole / 8 - 1)).foldl
      (fun r k => (List.range 8).map fun j => r.getD j 0.0 + item (8 * (k + 1) + j))
      ((List.range 8).map item)
    let r (j : Nat) := lanes.getD j 0.0
    let res := ((r 0 + r 1) + (r 2 + r 3)) + ((r 4 + r 5) + (r 6 + r 7))
    (List.range (n % 8)).foldl (fun acc i => acc + item (whole + i)) res
  else
    let half := n / 2 - n / 2 % 8
    pairwiseSum xs start half + pairwiseSum xs (start + half) (n - half)
termination_by n
decreasing_by all_goals omega

namespace Path

/-- The length of the segment between two points. -/
def segment (a b : Point) : Float :=
  let dx := b.x - a.x
  let dy := b.y - a.y
  Float.sqrt (dx * dx + dy * dy)

/-- The lengths of the segments of a path, in order. -/
def segments (pts : Array Point) : Array Float :=
  ((pts.toList.zip pts.toList.tail).map fun (a, b) => segment a b).toArray

/-- The length of a path; zero for fewer than two points. -/
def length (pts : Array Point) : Float :=
  if pts.size < 2 then 0.0
  else
    let ls := segments pts
    0.0 + pairwiseSum ls 0 ls.size

/-- The smaller of a running least value and the next one; NaN wins, and of two equal values
(such as the two zeros) the next one is taken. -/
def least (acc x : Float) : Float := if acc < x || acc.isNaN then acc else x

/-- The greater of a running greatest value and the next one; NaN wins, and of two equal values
(such as the two zeros) the next one is taken. -/
def greatest (acc x : Float) : Float := if acc > x || acc.isNaN then acc else x

/-- The box around a path: least x, least y, greatest x, greatest y; all zero for no points. -/
def bounds (pts : Array Point) : Float × Float × Float × Float :=
  match pts.toList with
  | [] => (0.0, 0.0, 0.0, 0.0)
  | p :: ps =>
    ps.foldl (fun (x0, y0, x1, y1) q => (least x0 q.x, least y0 q.y, greatest x1 q.x, greatest y1 q.y))
      (p.x, p.y, p.x, p.y)

end Path

end Turtle
