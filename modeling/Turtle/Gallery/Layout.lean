import Turtle.Workspace

/-!
# Program layouts

A layout describes a program as an author would type it in the editor: each item names a kind
and a parameter, and an item may list the items that go into it. Building a layout adds each
item in turn to the open block of a workspace with the editor's defaults; an item with items of
its own opens the command just added, places them, and then reopens the block that was open
before. Opening a command that is not a block is refused, so the items of a leaf go where the
leaf went.

The gallery is the set of sample layouts the program is shown with.
-/

namespace Turtle

/-- A program as typed in the editor: kind, parameter and the items that go into it. -/
inductive Layout where
  | item (kind value : Datum) (children : List Layout)
deriving Inhabited

namespace Layout

mutual

/-- Adds an item to the open block of a workspace, then the items that go into it. -/
def place (w : Workspace) (ids : IdSupply) : Layout → Except Fault (Workspace × IdSupply)
  | .item kind value children => do
    let parent := w.active
    let (c, w, ids) ← w.add kind value ids
    if children.isEmpty then pure (w, ids)
    else
      -- a refused add returned none, whose identifier cannot be read
      let w ← match c with
        | some c => pure (w.setActive (some c.id)).1
        | none => throw (.attributeOfNone "id")
      let (w, ids) ← placeAll w ids children
      pure ((w.setActive parent).1, ids)

/-- Adds items in order. -/
def placeAll (w : Workspace) (ids : IdSupply) : List Layout → Except Fault (Workspace × IdSupply)
  | [] => pure (w, ids)
  | l :: ls => do
    let (w, ids) ← place w ids l
    placeAll w ids ls

end

/-- A workspace holding the program a layout describes, with identifiers from `ids`. -/
def build (items : List Layout) (ids : IdSupply) : Except Fault (Workspace × IdSupply) :=
  placeAll (Workspace.start []) ids items

/-- A leaf item. -/
def leaf (kind : String) (value : Int) : Layout := .item (.text kind) (.int value) []

/-- A block item. -/
def block (count : Int) (body : List Layout) : Layout := .item (.text "REPEAT") (.int count) body

end Layout

/-- The sample layouts, by name. -/
def Layout.samples : List (String × List Layout) :=
  [("square", [.block 4 [.leaf "FORWARD" 3, .leaf "TURN_RIGHT" 90]]),
   ("star", [.block 5 [.leaf "FORWARD" 5, .leaf "TURN_RIGHT" 144]]),
   ("stairs", [.block 3 [.leaf "FORWARD" 1, .leaf "TURN_RIGHT" 90, .leaf "FORWARD" 1,
      .leaf "TURN_LEFT" 90]]),
   ("flower", [.block 6 [.block 4 [.leaf "FORWARD" 2, .leaf "TURN_RIGHT" 90],
      .leaf "TURN_RIGHT" 60]])]

end Turtle
