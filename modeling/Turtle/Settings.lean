import Turtle.Fault

/-!
# Run settings

The size of a grid cell, the canvas, the start pose and the timing of runs. A cell size or a
canvas extent is a `Scale`: an exact integer as long as it is the built-in default, a double
once it is set. Settings are given as named doubles (`Settings.configure`); a name that is no
setting is refused.
-/

namespace Turtle

/-- A length that is an exact integer or a double, kept as given. -/
inductive Scale where
  | exact (n : Int)
  | double (x : Float)
deriving Inhabited

namespace Scale

/-- The length as a double: an integer too large for a double has none. -/
def toFloat : Scale → Except Fault Float
  | .exact n => (Float.ofInt? n).elim (.error .tooLargeForDouble) .ok
  | .double x => .ok x

/-- The length as written in descriptions: an integer plainly, a double as shown. -/
def display : Scale → String
  | .exact n => toString n
  | .double x => Float.shown x

/-- Half the length, as a double. -/
def half (s : Scale) : Except Fault Float := do
  let x ← s.toFloat
  pure (x / 2.0)

end Scale

/-- Everything a run is configured by. -/
structure Settings where
  /-- the side of a grid cell, in canvas units -/
  cellSize : Scale := .exact 40
  canvasWidth : Scale := .exact 800
  canvasHeight : Scale := .exact 600
  /-- the pose a run starts from -/
  startX : Float := 400.0
  startY : Float := 300.0
  startAngle : Float := -90.0
  /-- seconds before each step and before the first one -/
  stepDelay : Float := 0.5
  startDelay : Float := 0.5
  /-- seconds between checks for a stop request during a pause -/
  pollInterval : Float := 0.05
deriving Inhabited

namespace Settings

/-- The setting `name` set to `x`. The name `self` is taken by the settings being built, so it is
refused as given twice. -/
def set (s : Settings) (name : String) (x : Float) : Except Fault Settings :=
  match name with
  | "cell_size" => .ok { s with cellSize := .double x }
  | "canvas_width" => .ok { s with canvasWidth := .double x }
  | "canvas_height" => .ok { s with canvasHeight := .double x }
  | "start_x" => .ok { s with startX := x }
  | "start_y" => .ok { s with startY := x }
  | "start_angle" => .ok { s with startAngle := x }
  | "step_delay" => .ok { s with stepDelay := x }
  | "start_delay" => .ok { s with startDelay := x }
  | "poll_interval" => .ok { s with pollInterval := x }
  | "self" => .error (.repeatedArgument "RunConfig.__init__()" name)
  | _ => .error (.unknownSetting name)

/-- Settings from the defaults and the given values, in order; `headless` runs without delays
unless a delay is given. The headless settings are made by a factory that binds the name `cls`
to the kind of settings it makes, so that name cannot be given to it. -/
def configure (headless : Bool) (given : List (String × Float)) : Except Fault Settings :=
  if headless && given.any (·.1 == "cls") then .error (.repeatedArgument "RunConfig.headless()" "cls")
  else
    let base : Settings := if headless then { stepDelay := 0.0, startDelay := 0.0 } else {}
    given.foldlM (fun s (name, x) => s.set name x) base

end Settings

end Turtle
