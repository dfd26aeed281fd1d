import Turtle.Picture.Axes

/-!
# Drawing a picture of paths

A picture of `n` named paths is drawn in three steps, and fails with the first fault met:

1. the limits of every panel are found, panel by panel (`viewOf`);
2. the layout is tightened: at 100 pixels an inch, each panel is measured in its cell of the
   initial grid (`Axes.tight`), and the grid's margins become what the measured boxes stick out
   of their cells, at least nothing, plus a pad of 1.08 times the 10-point font size; the gap
   between panels becomes the most any two neighbours stick out towards each other plus that
   pad (`Margins.tightened`). Margins that leave no room keep the initial grid;
3. the picture is drawn for saving at 120 pixels an inch on the tightened grid (`Axes.draw`).
-/

namespace Turtle

namespace Picture

/-- The pad around tightened panels, in inches: 1.08 times the 10-point font size. -/
def pad : Float := 1.08 * (10.0 / 72.0)

/-- The greatest of a list of doubles, not a number when one of them is not or the list is
empty. -/
def greatest (xs : List Float) : Float := TickText.greatest xs

/-- The margins that fit the measured `tights` (in pixels of a figure `figW × figH` pixels
large) into their `cells` of a row of `n` panels `n * 4` inches wide and 4 inches high; the
initial grid when the margins leave no room. -/
def Margins.tightened (n : Nat) (figW figH : Float) (cells tights : List Box) : Margins :=
  let inchesW := 4.0 * n.toFloat
  let inchesH := 4.0
  let toFigure (t : Box) : Box :=
    ⟨1.0 / figW * t.left, 1.0 / figH * t.bottom, 1.0 / figW * t.right, 1.0 / figH * t.top⟩
  let pairs := cells.zip (tights.map toFigure)
  let lefts := pairs.map fun (c, t) => c.left - t.left
  let rights := pairs.map fun (c, t) => t.right - c.right
  let tops := pairs.map fun (c, t) => t.top - c.top
  let bottoms := pairs.map fun (c, t) => c.bottom - t.bottom
  let outerLeft := 0.0 + lefts.headD 0.0
  let outerRight := 0.0 + rights.getLastD 0.0
  let between := (rights.dropLast.zip lefts.tail).map fun (r, l) => (0.0 + r) + l
  let ml := Box.larger outerLeft 0.0 + pad / inchesW
  let mr := Box.larger outerRight 0.0 + pad / inchesW
  let mb := Box.larger (greatest bottoms) 0.0 + pad / inchesH
  let mt := Box.larger (greatest tops) 0.0 + pad / inchesH
  if ml + mr ≥ 1.0 || mb + mt ≥ 1.0 then Margins.initial
  else if n > 1 then
    let gap := greatest between + pad / inchesW
    let panelW := (1.0 - mr - ml - gap * (n.toFloat - 1.0)) / n.toFloat
    if panelW < 0.0 then Margins.initial
    else ⟨ml, 1.0 - mr, mb, 1.0 - mt, gap / panelW⟩
  else ⟨ml, 1.0 - mr, mb, 1.0 - mt, 0.2⟩

/-- Draws the picture of named paths, or tells the fault that stops it. -/
def draw (paths : List (String × Array Point)) : Except Fault Unit := do
  let n := paths.length
  let views ← paths.mapM fun (_, path) => viewOf path
  let named := (paths.map (·.1)).zip views
  let measuredW := 400.0 * n.toFloat
  let cells := grid n Margins.initial
  let tights ← (named.zip cells).mapM fun ((name, v), cell) =>
    (Axes.place .measured measuredW 400.0 cell v).tight name
  let margins := Margins.tightened n measuredW 400.0 cells tights
  let savedW := 480.0 * n.toFloat
  (named.zip (grid n margins)).forM fun ((name, v), cell) =>
    (Axes.place .saved savedW 480.0 cell v).draw name

end Picture

end Turtle
