import Turtle.Program.Edit

/-!
# The editing session

A workspace holds the program being edited, every program it has held (`snapshots`, the current
one last), the open block that new commands go into (`active`, none for the top level), and the
programs its listener has been told about (`notices`).

An action commits only when its edit built a new program: the program is replaced, a snapshot is
added, the listener is told, and an open block that is no longer the first match of its
identifier as a block is closed. An edit that found nothing, an insertion that is refused and a
refused opening change nothing at all.

`Workspace.act` is one action of the editor (`Workspace.Action`), so a session is a state machine
over those actions.
-/

namespace Turtle

/-- An editing session over a program with text identifiers. -/
structure Workspace where
  program : Program String
  /-- the identifier of the open block, or none for the top level -/
  active : Option String := none
  /-- every program held, in order, the current one last -/
  snapshots : Array (Program String)
  /-- the programs the listener received, in order -/
  notices : Array (Program String) := #[]

namespace Workspace

/-- A session over a program, with nothing open and nothing told. -/
def start (p : Program String) : Workspace := { program := p, snapshots := #[p] }

/-- The identifier names a block: its first match is one. -/
def opens (p : Program String) (x : String) : Bool :=
  match p.find? x with
  | some c => c.isBlock
  | none => false

/-- Commits a new program, if the edit built one; `true` when it did. -/
def commit (w : Workspace) : Option (Program String) → Workspace × Bool
  | none => (w, false)
  | some p =>
    let active := match w.active with
      | some x => if opens p x then some x else none
      | none => none
    ({ program := p, active, snapshots := w.snapshots.push p, notices := w.notices.push p }, true)

/-- Inserts a command into a container (none: the top level); a refused insertion is `false`. -/
def insert (w : Workspace) (c : Command String) (container : Option String) : Workspace × Bool :=
  match w.program.insert container c with
  | .ok r => w.commit (some r.program)
  | .error _ => (w, false)

/-- Creates a command with the editor's defaults and a fresh identifier and inserts it into the
open block: the command, or none when the insertion was refused. A kind that is no kind fails. -/
def add (w : Workspace) (kind value : Datum) (ids : IdSupply) :
    Except Fault (Option (Command String) × Workspace × IdSupply) := do
  let (c, ids) ← create kind value none ids
  let (w', ok) := w.insert c w.active
  pure (if ok then some c else none, w', ids)

/-- Removes the first match of an identifier; `true` when the program changed. -/
def remove (w : Workspace) (x : String) : Workspace × Bool :=
  w.commit ((w.program.remove x).map (·.program))

/-- Gives the first match of an identifier a new parameter; `true` when the program changed. -/
def update (w : Workspace) (x : String) (v : Datum) : Workspace × Bool :=
  w.commit ((w.program.update x v).map (·.program))

/-- Opens a block for new commands (none: the top level); an identifier whose first match is not
a block is refused. -/
def setActive (w : Workspace) : Option String → Workspace × Bool
  | none => ({ w with active := none }, true)
  | some x => if opens w.program x then ({ w with active := some x }, true) else (w, false)

/-- The commands of the open block, or of the top level. -/
def visible (w : Workspace) : Program String := w.program.childrenOf w.active

/-- Closes the open block and empties the program; an empty program stays as it is. -/
def clear (w : Workspace) : Workspace :=
  let w := { w with active := none }
  (w.commit (if w.program.isEmpty then none else some [])).1

/-- The description of a session: its number of nodes and its open block. -/
def describe (w : Workspace) : String :=
  "Workspace(" ++ toString w.program.size ++ " commands, active=" ++ w.active.getD "None" ++ ")"

/-! ## Sessions as state machines -/

/-- Where an insertion puts its command: into the open block (the top level when none is open),
or into a container named explicitly (none: the top level). -/
inductive Target where
  | opened
  | given (container : Option String)

/-- The container a target names in a session. -/
def target (w : Workspace) : Target → Option String
  | .opened => w.active
  | .given container => container

/-- What the editor may ask of a session. -/
inductive Action where
  /-- create a command of a kind with the editor's defaults and a fresh identifier, and insert it
  into the open block -/
  | add (kind value : Datum)
  | insert (c : Command String) (into : Target)
  | remove (x : String)
  | update (x : String) (v : Datum)
  | setActive (container : Option String)
  | clear

/-- The session after an action, with the identifier supply that `add` draws from. An `add` whose
kind is no kind fails before any change, and leaves both as they were. -/
def act (w : Workspace) (ids : IdSupply) : Action → Workspace × IdSupply
  | .add kind value =>
    match w.add kind value ids with
    | .ok (_, w', ids') => (w', ids')
    | .error _ => (w, ids)
  | .insert c into => ((w.insert c (w.target into)).1, ids)
  | .remove x => ((w.remove x).1, ids)
  | .update x v => ((w.update x v).1, ids)
  | .setActive container => ((w.setActive container).1, ids)
  | .clear => (w.clear, ids)

end Workspace

end Turtle
