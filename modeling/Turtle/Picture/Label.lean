import Turtle.Picture.Face
import Turtle.Picture.Box

/-!
# Set text

A text is set in lines, split at line feeds. A line is as wide as the advances of its glyphs
together; its height is the span of the glyph outlines from the lowest to the highest point and
its depth how far the lowest reaches below the baseline. A line is never shorter or shallower
than the letters `lp` set at the same size, and an empty line measures just that.

The first line hangs from the top of the text; each further baseline lies below the one before
by 1.2 times the line's height above its baseline, at least 1.2 times that of `lp`. The text is
as wide as its widest line and reaches down to the depth of its last line.

A set text is placed by an anchor point: horizontally at its left edge, centre or right edge,
vertically at its top, at its baseline (that of the last line), or halfway up from that
baseline. An empty text is a box without width or height at the anchor.
-/

namespace Turtle

/-- Where a text stands horizontally against its anchor. -/
inductive Across where
  /-- its left edge at the anchor -/
  | left
  /-- centred on the anchor -/
  | center
  /-- its right edge at the anchor -/
  | right

/-- Where a text stands vertically against its anchor. -/
inductive Upright where
  /-- its top at the anchor -/
  | top
  /-- its last baseline at the anchor -/
  | baseline
  /-- halfway up from its last baseline at the anchor -/
  | midBaseline

namespace Label

/-- The width, height and depth of a line, in pixels; an empty line measures nothing. -/
def line (s : Face.Size) (r : Face.Resolution) (text : String) : Float × Float × Float :=
  if text.isEmpty then (0.0, 0.0, 0.0)
  else
    let gs := text.toList.map (Face.glyph s r)
    let pen := (gs.map (·.advance)).foldr (· + ·) 0
    let lo := gs.foldl (fun m g => min m g.low) 32000
    let hi := gs.foldl (fun m g => max m g.high) (-32000)
    (pen.toFloat / 64.0, Float.ofInt (hi - lo) / 64.0, Float.ofInt (-lo) / 64.0)

/-- The extent of a set text: its width and height, the distance from its top down to its
bottom (negative) and the height of its last baseline above that bottom, measured from the top
of the first line. -/
structure Extent where
  width : Float
  height : Float
  bottom : Float
  baseline : Float

/-- The lines of a text, the running state of the layout: the widest line so far, the position
below the last line, the last baseline and the last depth. -/
def layLines (s : Face.Size) (r : Face.Resolution) (lpH lpD : Float) :
    List String → Nat → Float → Float → Float → Float → Float → Float × Float × Float × Float
  | [], _, width, _, lastY, baseline, depth => (width, lastY, baseline, depth)
  | l :: ls, i, width, y, _, _, _ =>
    let (w, h, d) := line s r l
    let h := max h lpH
    let d := max d lpD
    let baseline := (h - d) - y
    let y := if i == 0 then -(h - d) else y - max ((lpH - lpD) * 1.2) ((h - d) * 1.2)
    layLines s r lpH lpD ls (i + 1) (if i == 0 then w else max width w) (y - d) y baseline d

/-- The extent of a set text. -/
def extent (s : Face.Size) (r : Face.Resolution) (text : String) : Extent :=
  let (_, lpH, lpD) := line s r "lp"
  let (width, lastY, baseline, depth) :=
    layLines s r lpH lpD (text.splitOn "\n") 0 0.0 0.0 0.0 0.0 0.0
  let bottom := lastY - depth
  ⟨width, 0.0 - bottom, bottom, baseline⟩

/-- The box of a text set at an anchor point. -/
def box (s : Face.Size) (r : Face.Resolution) (text : String) (x y : Float) (ha : Across)
    (va : Upright) : Box :=
  if text.isEmpty then ⟨x, y, x, y⟩
  else
    let e := extent s r text
    let offX := match ha with
      | .left => 0.0
      | .center => (0.0 + e.width) / 2.0
      | .right => e.width
    let offY := match va with
      | .top => 0.0
      | .baseline => e.bottom + e.height - e.baseline
      | .midBaseline => e.bottom + e.height - e.baseline / 2.0
    let x0 := 0.0 - offX
    let y0 := e.bottom - offY
    ⟨x0 + x, y0 + y, (x0 + e.width) + x, (y0 + e.height) + y⟩

end Label

end Turtle
