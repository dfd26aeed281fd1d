import Turtle.Settings

/-!
# Poses and the effect of one leaf

A pose is a position on the canvas (y grows downwards), a heading in degrees (0 points east,
clockwise, never normalised) and a pen flag that is carried along. `Pose.step` applies one leaf:

* a move of `n` cells covers `n` times the cell size along the heading, forward or backward; the
  distance is an exact integer when the cell size is one, converted to a double once, and the
  new position is `x + cos θ · d`, then `y + sin θ · d`, with `θ` the heading in radians;
* a turn adds its degrees to the heading, the integer converted to a double first.

An integer too large for a double fails the step. `Pose.heading` and `Pose.grid` are what the
editor shows of a pose: the heading as an integer compass bearing and the position in grid cells
from the canvas centre, both rounded half to even.
-/

namespace Turtle

/-- A point of the canvas. -/
structure Point where
  x : Float
  y : Float
deriving Inhabited

/-- Where the pen is and where it points. -/
structure Pose where
  x : Float
  y : Float
  /-- heading in degrees, 0 pointing east, clockwise -/
  angle : Float
  penDown : Bool := true
deriving Inhabited

/-- The double nearest to `π / 180`: degrees times this are radians. -/
def radiansPerDegree : Float := 0.017453292519943295

namespace Pose

/-- The position of the pose. -/
def position (p : Pose) : Point := ⟨p.x, p.y⟩

/-- The pose a run starts from. -/
def origin (s : Settings) : Pose := ⟨s.startX, s.startY, s.startAngle, true⟩

/-- The distance of a move of `cells` cells: an exact product for an integer cell size, a double
product otherwise; negative for a backward move. -/
def distance (cell : Scale) (way : Stroke) (cells : Int) : Except Fault Float :=
  match cell with
  | .exact c =>
    let sign : Int := if way == .forward then 1 else -1
    (Float.ofInt? (cells * c * sign)).elim (.error .tooLargeForDouble) .ok
  | .double c => do
    let n ← (Float.ofInt? cells).elim (.error .tooLargeForDouble) .ok
    pure (n * c * (if way == .forward then 1.0 else -1.0))

/-- The pose after one leaf, with the new position as a path sample when the leaf moves. -/
def step (cell : Scale) (p : Pose) : Action → Except Fault (Pose × Option Point)
  | .move way cells => do
    let d ← distance cell way cells
    let rad := p.angle * radiansPerDegree
    let x := p.x + Float.cos rad * d
    let y := p.y + Float.sin rad * d
    let q := { p with x, y }
    pure (q, some q.position)
  | .turn way degrees => do
    let sign : Int := if way == .right then 1 else -1
    let t ← (Float.ofInt? (degrees * sign)).elim (.error .tooLargeForDouble) .ok
    pure ({ p with angle := p.angle + t }, none)

end Pose

/-- The integer nearest to a double, a tie going to the even one. -/
def roundToInt (x : Float) : Except Fault Int :=
  (Float.roundHalfEven x).mapError Fault.ofNonFinite

/-- A heading as the editor shows it: `0` points up, clockwise, from `0` to `359`. -/
def compassHeading (angle : Float) : Except Fault Int := do
  let n ← roundToInt (angle + 90.0)
  pure (n % 360)

/-- `x / d` for a length `d`: dividing by zero fails. -/
def divideBy (x : Float) (d : Scale) : Except Fault Float := do
  let v ← d.toFloat
  if v == 0.0 then throw .divisionByZero
  pure (x / v)

/-- The position in grid cells from the canvas centre (y pointing up) and the compass heading,
computed in that order. -/
def Pose.grid (s : Settings) (p : Pose) : Except Fault (Int × Int × Int) := do
  let gx ← roundToInt (← divideBy (p.x - (← s.canvasWidth.half)) s.cellSize)
  let gy ← roundToInt (← divideBy (-(p.y - (← s.canvasHeight.half))) s.cellSize)
  let h ← compassHeading p.angle
  pure (gx, gy, h)

end Turtle
