/-!
# Boxes

A box is a rectangle given by its lower left and upper right corners, in figure fractions or in
pixels. Boxes are measured in doubles, and a coordinate that is not a number spreads: the
smallest or largest of coordinates one of which is not a number is not a number either, as the
union of boxes is computed over whole rows of coordinates. Two single coordinates are compared
the other way (`smaller`, `larger`): of two that are not ordered the first is kept, and it is
by these that boxes are tested for meeting.
-/

namespace Turtle

/-- A rectangle, from its lower left to its upper right corner. -/
structure Box where
  left : Float
  bottom : Float
  right : Float
  top : Float

namespace Box

/-- The width of a box. -/
def width (b : Box) : Float := b.right - b.left

/-- The height of a box. -/
def height (b : Box) : Float := b.top - b.bottom

/-- The lesser of two coordinates, not a number when either is not. -/
def lower (a b : Float) : Float := if a.isNaN || b.isNaN then 0.0 / 0.0 else min a b

/-- The greater of two coordinates, not a number when either is not. -/
def higher (a b : Float) : Float := if a.isNaN || b.isNaN then 0.0 / 0.0 else max a b

/-- The smaller of two coordinates, the first when they are not ordered. -/
def smaller (a b : Float) : Float := if b < a then b else a

/-- The larger of two coordinates, the first when they are not ordered. -/
def larger (a b : Float) : Float := if b > a then b else a

/-- The smallest box holding two boxes. -/
def join (a b : Box) : Box :=
  ⟨lower a.left b.left, lower a.bottom b.bottom, higher a.right b.right, higher a.top b.top⟩

/-- The smallest box holding all of a non-empty list of boxes. -/
def union (b : Box) (bs : List Box) : Box := bs.foldl join b

/-- The smallest box holding all of a list of boxes, if there are any. -/
def union? : List Box → Option Box
  | [] => none
  | b :: bs => some (union b bs)

/-- Two boxes share a point, their edges included. -/
def meets (a b : Box) : Bool :=
  larger a.left b.left ≤ smaller a.right b.right && larger a.bottom b.bottom ≤ smaller a.top b.top

/-- A box of positive finite width and height. -/
def solid (b : Box) : Bool :=
  let inf := 1.0 / 0.0
  0.0 < b.width && b.width < inf && 0.0 < b.height && b.height < inf

/-- A box with neither width nor height. -/
def flat (b : Box) : Bool := b.width == 0.0 && b.height == 0.0

end Box

end Turtle
