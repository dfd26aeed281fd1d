import Turtle.Picture.Panel
import Turtle.Picture.TickText
import Turtle.Picture.Label
import Turtle.Picture.Markup

/-!
# A panel measured in pixels

`Axes` is a panel placed in a figure at a resolution: the pixel box its limits are drawn in,
fitted to the aspect of the limits inside its cell, with the vertical axis pointing down. What
the panel draws around that box is measured here, in the order it is laid out, and the first
fault met ends the measuring:

* each axis gets one bin per 30 points of width (horizontal) or 20 points of height (vertical),
  one to nine; its ticks (`Ticks.values`) and their texts (`TickText.ofTicks`); the ticks within
  a hair of the limits are drawn, with their labels 7 points outside the box, and the scale label
  3 points beyond the labels (under the right end of the horizontal axis, over the top of the
  vertical one);
* the title, 6 points above the box and centred, must have markup that parses; when it would
  overlap the box or the vertical axis's scale label it is moved up, through the inverse of the
  map from panel fractions to pixels, which a box without width or height does not have
  ("Singular matrix");
* the tight box of the panel (`Axes.tight`) holds the axes' boxes, the panel box, the title
  narrowed to one pixel, and the spines with their tick marks, all boxes without extent left out.
-/

namespace Turtle

namespace Picture

/-- A panel placed in a figure at a resolution: its limits and its pixel box. -/
structure Axes where
  res : Face.Resolution
  view : View
  /-- the pixel box of the panel, from its left and bottom to its right and top edge -/
  x0 : Float
  y0 : Float
  x1 : Float
  y1 : Float

/-- The panel showing `v` in the cell `cell` of a figure `figW × figH` pixels large. -/
def Axes.place (res : Face.Resolution) (figW figH : Float) (cell : Box) (v : View) : Axes :=
  let b := Box.fitted cell v.ratio (figH / figW)
  ⟨res, v, figW * b.left, figH * b.bottom, figW * b.right, figH * b.top⟩

/-- The number of bins of an axis `length` points long, one per `per` points, one to nine. -/
def bins (length per : Float) : Except Fault Nat := do
  let n ← TickText.floorToInt (length / per)
  pure (if n < 1 then 1 else if n > 9 then 9 else n.toNat)

/-- `t` lies within the limits `lo..hi`, or outside them by a ten-billionth of their span. -/
def containsClose (lo hi t : Float) : Bool :=
  let (a, b) := if hi < lo then (hi, lo) else (lo, hi)
  let r := (b - a) * 1e-10
  a - r ≤ t && t ≤ b + r

namespace Axes

/-- The width of the panel box in pixels. -/
def width (a : Axes) : Float := a.x1 - a.x0

/-- The height of the panel box in pixels. -/
def height (a : Axes) : Float := a.y1 - a.y0

/-- Pixels an inch. -/
def dpi (a : Axes) : Float := a.res.dpi

/-- The pixel column of the horizontal value `t`. -/
def xAt (a : Axes) (t : Float) : Float :=
  a.x0 + (t - a.view.xs.1) / (a.view.xs.2 - a.view.xs.1) * a.width

/-- The pixel row of the vertical value `t`; the axis points down. -/
def yAt (a : Axes) (t : Float) : Float :=
  a.y0 + (t - a.view.ys.2) / (a.view.ys.1 - a.view.ys.2) * a.height

/-- The offset of tick labels from the box, 7 points outwards. -/
def labelGap (a : Axes) : Float := a.dpi * (-7.0 / 72.0)

/-- The offset of a scale label from what it stands beyond, 3 points. -/
def scaleGap (a : Axes) : Float := 3.0 * a.dpi / 72.0

/-- The length of a span of `pixels` starting at `start`, in points. -/
def points (a : Axes) (pixels start : Float) : Float :=
  let perPixel := 1.0 / a.dpi
  let s := perPixel * start
  ((perPixel * pixels + s) - s) * 72.0

/-- The drawn ticks of an axis with limits `lo..hi`, each with its label. -/
def drawn (lo hi : Float) (locs : List Float) (labels : List String) : List (Float × String) :=
  (locs.zip labels).filter fun (t, _) => containsClose lo hi t

/-- The horizontal axis: the box of its labels and scale label, if it has one, and whether it
draws a tick. -/
def xAxis (a : Axes) : Except Fault (Option Box × Bool) := do
  let (lo, hi) := a.view.xs
  let n ← bins (a.points a.width a.x0) 30.0
  let locs ← Ticks.values lo hi n
  let texts ← TickText.ofTicks locs lo hi
  let ticks := drawn lo hi locs texts.labels
  let labels := ticks.map fun (t, s) =>
    Label.box .tick a.res s (a.xAt t) (a.y0 + a.labelGap) .center .top
  let bottom := match Box.union? labels with
    | some u => u.bottom
    | none => Box.smaller a.y0 a.y1
  let scale :=
    if texts.scale.isEmpty then []
    else [Label.box .tick a.res texts.scale (a.width + a.x0) (bottom - a.scaleGap) .right .top]
  pure (Box.union? ((scale ++ labels).filter Box.solid), !ticks.isEmpty)

/-- The vertical axis: the box of its labels and scale label, if it has one, whether it draws a
tick, and the box of its scale label. -/
def yAxis (a : Axes) : Except Fault (Option Box × Bool × Option Box) := do
  let (lo, hi) := a.view.ys
  let n ← bins (a.points a.height a.y0) 20.0
  let locs ← Ticks.values lo hi n
  let texts ← TickText.ofTicks locs lo hi
  let ticks := drawn lo hi locs texts.labels
  let labels := ticks.map fun (t, s) =>
    Label.box .tick a.res s (a.x0 + a.labelGap) (a.yAt t) .right .midBaseline
  let scale :=
    if texts.scale.isEmpty then none
    else some (Label.box .tick a.res texts.scale a.x0
      (Box.larger a.y0 a.y1 + a.scaleGap) .left .baseline)
  pure (Box.union? ((scale.toList ++ labels).filter Box.solid), !ticks.isEmpty, scale)

/-- The box of the title `name` placed at the fraction `up` of the panel's height above it. -/
def titleAt (a : Axes) (name : String) (up : Float) : Box :=
  Label.box .title a.res name (a.width * 0.5 + a.x0)
    (a.height * up + (a.y0 + a.dpi * (6.0 / 72.0))) .center .baseline

/-- The box of the title `name`, if it is not empty, once moved clear of the panel box and of
the vertical axis's scale label. -/
def title (a : Axes) (name : String) : Except Fault (Option Box) := do
  if name.isEmpty then return none
  let (_, _, scale) ← a.yAxis
  let first := a.titleAt name 1.0
  let top := Box.larger a.y0 a.y1
  let top := match scale with
    | some s => if first.meets s then s.top else top
    | none => top
  if let some f := Markup.check name then throw f
  if !(top < 0.0) && first.bottom < top then
    if a.width == 0.0 || a.height == 0.0 then throw .singularMatrix
    let perPixel := 1.0 / a.height
    let shift := (-a.y0) * perPixel
    let moved := a.titleAt name (perPixel * top + shift)
    if moved.bottom < top then
      return some (a.titleAt name (perPixel * (2.0 * top - moved.bottom) + shift))
    return some moved
  return some first

/-- The tight box of the panel under the title `name`, as measured for the layout: its axes
first, then its title. -/
def tight (a : Axes) (name : String) : Except Fault Box := do
  let (xb, xTicks) ← a.xAxis
  let (yb, yTicks, _) ← a.yAxis
  let tb ← a.title name
  let frame : Box := ⟨a.x0, Box.smaller a.y0 a.y1, a.x1, Box.larger a.y0 a.y1⟩
  let title := tb.map fun t =>
    if t.width > 0.0 then
      let left := (t.left + t.right) / 2.0 - 0.5
      ({ t with left := left, right := left + 1.0 } : Box)
    else t
  let patch : Box := ⟨a.x0, a.y0, a.width + a.x0, a.height + a.y0⟩
  let tickLength := 3.5 / 72.0 * a.dpi
  let leftSpine :=
    let v0 := a.yAt a.view.ys.2
    let v1 := a.yAt a.view.ys.1
    (⟨a.x0 - tickLength, Box.smaller v0 v1, a.x0, Box.larger v0 v1⟩ : Box)
  let bottomSpine :=
    let v0 := a.xAt a.view.xs.1
    let v1 := a.xAt a.view.xs.2
    (⟨Box.smaller v0 v1, a.y0 - tickLength, Box.larger v0 v1, a.y0⟩ : Box)
  let boxes := xb.toList ++ yb.toList ++ [frame] ++ title.toList ++
    ([patch].filter Box.solid) ++
    ((if yTicks then [leftSpine] else []).filter Box.solid) ++
    ((if xTicks then [bottomSpine] else []).filter Box.solid)
  pure ((Box.union? (boxes.filter fun b => !b.flat)).getD frame)

/-- Draws the panel under the title `name` for saving: its title first, then its axes. -/
def draw (a : Axes) (name : String) : Except Fault Unit := do
  let _ ← a.title name
  let _ ← a.xAxis
  let _ ← a.yAxis
  pure ()

end Axes

end Picture

end Turtle
