import Turtle.Gallery.Layout
import Turtle.Run.Controller
import Turtle.Measure.Frame
import Turtle.Text.Csv
import Turtle.Picture.Figure

/-!
# Showing layouts

Showing a layout builds its program in a fresh workspace, runs it with a controller without
delays from the origin, and tables its steps: the step table of an uninterrupted run from the
origin, each row headed by the layout's name. The path kept is the controller's, which holds only
the origin when the program is empty (an empty program is not run).

A show of several layouts, in order and drawing identifiers from one supply, writes into an
output directory a log, the steps of all the layouts as one comma-separated table, and a picture
of their paths; it reports each file it saves. Joining the tables of no layouts fails, and then
nothing but the log has been written; a picture that cannot be drawn fails after the table.

A table stores its parameter column as signed 64-bit words when every value fits them, else as
unsigned 64-bit words when every value fits those, else as exact integers. The joined table keeps
the common storage of the tables that have rows, except that signed and unsigned words together
become doubles, and exact integers anywhere keep all values exact.
-/

namespace Turtle

/-- The columns of a shown layout's step table. -/
def Gallery.columns : List String :=
  ["program", "step", "command_id", "kind", "value", "x", "y", "angle", "moved"]

/-- A layout once shown: its name, its step table and the path the controller drew. -/
structure Shown where
  name : String
  rows : List (FrameRow String)
  path : Array Point

/-- How a table stores a column of integers. -/
inductive Storage where
  /-- signed 64-bit words -/
  | signed
  /-- unsigned 64-bit words -/
  | unsigned
  /-- exact integers -/
  | exact
deriving DecidableEq

/-- The storage of a column holding the given integers. -/
def Storage.of (vs : List Int) : Storage :=
  if vs.all fun v => -Int.pow 2 63 ≤ v && v < Int.pow 2 63 then .signed
  else if vs.all fun v => 0 ≤ v && v < Int.pow 2 64 then .unsigned
  else .exact

/-- Columns of these storages, joined, hold doubles. -/
def Storage.joinAsDoubles (ks : List Storage) : Bool :=
  ks.contains .signed && ks.contains .unsigned && !ks.contains .exact

/-- The cells of a step table row headed by a name, the parameter as a double if asked. -/
def FrameRow.cells (name : String) (asDouble : Bool) (r : FrameRow String) : List Cell :=
  [.text name, .int r.step, .text r.id, .text r.kind.name,
   if asDouble then .float (Float.ofInt r.value) else .int r.value,
   .float r.pose.x, .float r.pose.y, .float r.pose.angle, .bool r.moved]

namespace Gallery

/-- Builds a layout, runs it and tables its steps. -/
def present (name : String) (items : List Layout) (ids : IdSupply) : Except Fault (Shown × IdSupply) := do
  let (w, ids) ← Layout.build items ids
  let s ← Settings.configure true []
  let (r, session) := (Controller.start Controller.tell (pure ()) none).run.run
    { ctl := Controller.create s (some w) }
  let _ ← r
  let rows ← w.program.frame s.cellSize (Pose.origin s)
  pure (⟨name, rows, session.ctl.path⟩, ids)

/-- Shows layouts in order, with one identifier supply. -/
def presentAll (ids : IdSupply) : List (String × List Layout) → Except Fault (List Shown)
  | [] => pure []
  | (name, items) :: rest => do
    let (s, ids) ← present name items ids
    let more ← presentAll ids rest
    pure (s :: more)

/-- The table of several shown layouts, one after the other; there must be at least one. The
parameters are doubles only when signed and unsigned words meet; a layout without steps has a
column of general values, which keeps every parameter exact. -/
def table (shows : List Shown) : Except Fault String :=
  if shows.isEmpty then throw .nothingToJoin
  else
    let asDouble := shows.all (fun s => !s.rows.isEmpty) &&
      Storage.joinAsDoubles (shows.map fun s => Storage.of (s.rows.map (·.value)))
    pure (Csv.table columns (shows.flatMap fun s => s.rows.map (FrameRow.cells s.name asDouble)))

/-- Why the picture of named paths cannot be drawn, if it cannot. -/
def pictureFailure (paths : List (String × Array Point)) : Option Fault :=
  match Picture.draw paths with
  | .ok () => none
  | .error f => some f

/-- What a show of several layouts leaves behind. -/
structure Exhibition where
  /-- the lines reported -/
  reports : List String
  /-- the names of the files written, in the order written -/
  files : List String
  /-- the comma-separated table, when it was written -/
  table : Option String
  /-- the picture was written -/
  picture : Bool
  /-- the failure that ended the show, if any -/
  failure : Option Fault

/-- Shows several layouts into an output directory. -/
def exhibit (dir : String) (programs : List (String × List Layout)) : Exhibition :=
  let log := "demo.log"
  let failed (f : Fault) : Exhibition := ⟨[], [log], none, false, some f⟩
  match presentAll {} programs >>= fun shows => (table shows).map (shows, ·) with
  | .error f => failed f
  | .ok (shows, text) =>
    let steps := (shows.map (·.rows.length)).foldr (· + ·) 0
    let saved := "Saved " ++ toString steps ++ " steps to " ++ dir ++ "/traces.csv"
    if let some f := pictureFailure (shows.map fun s => (s.name, s.path)) then
      ⟨[saved], [log, "traces.csv"], some text, false, some f⟩
    else
      { reports := [saved, "Saved plot to " ++ dir ++ "/paths.png"]
        files := [log, "traces.csv", "paths.png"]
        table := some text
        picture := true
        failure := none }

end Gallery

end Turtle
