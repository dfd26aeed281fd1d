import Turtle.Run.Engine
import Turtle.Workspace

/-!
# The run controller

The controller runs one program at a time from the origin pose and publishes what a renderer
needs: the run state, the pose after every step and the path drawn so far. Listeners receive
these notices synchronously, in the order they were attached; the state, pose and path recorders
come first, and an action may add one more listener (`Watch`) that reacts to a given notice by
asking the run to stop, by clearing everything, or by failing.

* `start` refuses an empty program or a second run; otherwise the run gets a new number and a
  fresh stop request, announces `RUNNING`, moves the pen back to the origin, pauses, and runs
  the engine unless a stop was requested meanwhile. However it ends, a run that did not complete
  leaves its stop request set, and, if no `clearAll` detached it meanwhile, it announces
  `COMPLETED` or `STOPPED`. A step is published only while the run is the current one.
* `stop` sets the stop request of a running run; `reset` publishes the origin pose and the
  one-point path; `clearAll` stops a running run, detaches it (a new run number), empties the
  workspace, resets and announces `IDLE`.

Listeners may act while a notice is delivered, so the operations take the delivery function as a
parameter (`Tell`), and `notify` delivers with a bounded depth of such nested actions: a watch
reacts to a pose once, and a failure nests nothing. A run pauses before it starts and before each
step, and other work may happen then: `start` takes that as a parameter too (`wait`). When nothing
else runs and the delays are zero, a pause is one turn of the event loop, or never ends
(`Controller.pause`, in `Turtle.Run.Pause`).
-/

namespace Turtle

/-- The state of the controller's run. -/
inductive RunState where
  | idle
  | running
  | stopped
  | completed
deriving Repr, DecidableEq

/-- The name of a run state in notices and descriptions. -/
def RunState.name : RunState → String
  | .idle => "IDLE"
  | .running => "RUNNING"
  | .stopped => "STOPPED"
  | .completed => "COMPLETED"

/-- The run state with a given name. -/
def RunState.ofName? (s : String) : Option RunState :=
  [RunState.idle, .running, .stopped, .completed].find? (·.name == s)

/-- What a listener receives. -/
inductive Notice where
  | state (s : RunState)
  | pose (p : Pose)
  | path (points : Array Point)

/-- The listener an action adds after the recorders: it counts the pose notices of the action and
reacts to the given ones. -/
structure Watch where
  /-- ask the run to stop at this pose notice -/
  stopAtPose : Option Nat := none
  /-- clear everything at this pose notice -/
  clearAtPose : Option Nat := none
  /-- fail at this pose notice -/
  failAtPose : Option Nat := none
  /-- fail whenever this state is announced -/
  failAtState : Option RunState := none

/-- The controller: settings, published state, run numbering, the current stop request and the
workspace whose program it runs by default. -/
structure Controller where
  settings : Settings
  state : RunState := .idle
  pose : Pose
  path : Array Point
  /-- the number of the current run; a run whose number is no longer this one is detached -/
  runId : Nat := 0
  /-- the stop request of the current run -/
  stopRequested : Bool := false
  workspace : Option Workspace := none

/-- A controller at the origin, idle. -/
def Controller.create (s : Settings) (w : Option Workspace) : Controller :=
  let o := Pose.origin s
  { settings := s, pose := o, path := #[o.position], workspace := w }

/-- The controller during one action: the notices delivered and the action's watch. -/
structure Session where
  ctl : Controller
  watch : Watch := {}
  /-- the pose notices delivered during the action -/
  poses : Nat := 0
  /-- the notices delivered during the action, in order -/
  notices : Array Notice := #[]

/-- Controller actions: they change the session and may fail, keeping the changes made before. -/
abbrev Act := ExceptT Fault (StateM Session)

/-- How a notice is delivered to the listeners. -/
abbrev Tell := Notice → Act Unit

namespace Controller

/-- Changes the controller. -/
def change (f : Controller → Controller) : Act Unit :=
  modify fun s => { s with ctl := f s.ctl }

/-- The controller as it is now. -/
def now : Act Controller := do pure (← get).ctl

/-- Announces a run state. -/
def setState (tell : Tell) (st : RunState) : Act Unit := do
  change fun c => { c with state := st }
  tell (.state st)

/-- Publishes a pose. -/
def publishPose (tell : Tell) (p : Pose) : Act Unit := do
  change fun c => { c with pose := p }
  tell (.pose p)

/-- Publishes a path. -/
def publishPath (tell : Tell) (pts : Array Point) : Act Unit := do
  change fun c => { c with path := pts }
  tell (.path pts)

/-- Puts the pen back at the origin with a one-point path. -/
def reset (tell : Tell) : Act Unit := do
  let o := Pose.origin (← now).settings
  publishPose tell o
  publishPath tell #[o.position]

/-- Asks the running run to stop; without a run it does nothing. -/
def stop : Act Unit :=
  change fun c => if c.state == .running then { c with stopRequested := true } else c

/-- Stops a running run, detaches any run (a new run number) and empties the workspace: how
`clearAll` begins. -/
def detach (c : Controller) : Controller :=
  { c with
    stopRequested := c.stopRequested || c.state == .running
    runId := c.runId + 1
    workspace := c.workspace.map Workspace.clear }

/-- Stops and detaches any run, empties the workspace and resets, ending idle. -/
def clearAll (tell : Tell) : Act Unit := do
  change detach
  reset tell
  setState tell .idle

/-- What the recorders do with a notice. -/
def record (n : Notice) : Act Unit :=
  modify fun s => { s with notices := s.notices.push n }

/-- What the action's watch does with a notice; the notices of what it does are delivered by
`tell`. -/
def react (tell : Tell) : Notice → Act Unit
  | .pose _ => do
    modify fun s => { s with poses := s.poses + 1 }
    let s ← get
    if s.watch.stopAtPose == some s.poses then stop
    if s.watch.clearAtPose == some s.poses then clearAll tell
    if s.watch.failAtPose == some s.poses then throw (.listenerFailed .pose)
  | .state st => do
    if (← get).watch.failAtState == some st then throw (.listenerFailed .state)
  | .path _ => pure ()

/-- Delivers a notice to the recorders and then to the watch, which may act; nested actions are
delivered with one level less. -/
def notify : Nat → Tell
  | 0, n => record n
  | depth + 1, n => do
    record n
    react (notify depth) n

/-- The delivery used by the controller's actions. -/
def tell : Tell := notify 4

/-- The end of a run: a run that did not complete leaves its stop request set, and a run that is
still the current one announces how it ended. -/
def finish (tell : Tell) (run : Nat) (completed : Bool) : Act Unit := do
  if !completed then change fun c => { c with stopRequested := true }
  if (← now).runId == run then
    setState tell (if completed then .completed else .stopped)

/-- Runs `body`; if it fails, the run ends as not completed first and the failure goes on. -/
def guarded {α : Type} (tell : Tell) (run : Nat) (body : Act α) : Act α :=
  tryCatch body fun e => do
    finish tell run false
    throw e

/-- The program a start request runs: the one given, else the workspace's, else nothing. -/
def programFor (c : Controller) (p : Option (Program String)) : Program String :=
  match p with
  | some p => p
  | none => (c.workspace.map (·.program)).getD []

/-- The first part of a start, up to the pause before the run: refused (none) for an empty
program or while a run is going; otherwise the run's number and program. -/
def launch (tell : Tell) (p : Option (Program String)) : Act (Option (Nat × Program String)) := do
  let c ← now
  let program := programFor c p
  if program.isEmpty || c.state == .running then return none
  let run := c.runId + 1
  change fun c => { c with runId := run, stopRequested := false }
  guarded tell run do
    setState tell .running
    reset tell
  return some (run, program)

/-- What the engine reads and does in the controller's run `run`: the stop request, a pause in
which `wait` happens, and a step published only while the run is current, its path extended only
for a move. -/
def probe (tell : Tell) (wait : Act Unit) (run : Nat) : Probe Act where
  stopRequested := do pure (← now).stopRequested
  pause := wait
  report pose sample := do
    if (← now).runId != run then return
    publishPose tell pose
    if let some pt := sample then
      let c ← now
      if c.runId == run then publishPath tell (c.path.push pt)

/-- The run proper: the pause before it, in which `wait` happens, and the engine run unless a stop
was requested by then. The answer is the last pose the run computed and whether it completed. -/
def perform (tell : Tell) (wait : Act Unit) (run : Nat) (program : Program String) :
    Act (Pose × Bool) := do
  wait
  let c ← now
  if c.stopRequested then return (c.pose, false)
  let out ← Engine.execute (probe tell wait run) c.settings.cellSize program c.pose
  return (out.pose, out.completed)

/-- The rest of a start: the run proper and the end of the run. The answer is the last pose the
run computed. -/
def proceed (tell : Tell) (wait : Act Unit) (run : Nat) (program : Program String) : Act Pose := do
  let (pose, completed) ← guarded tell run (perform tell wait run program)
  finish tell run completed
  return pose

/-- Runs a program (the workspace's when none is given) from the origin; none when refused. Each
pause of the run lets `wait` happen. -/
def start (tell : Tell) (wait : Act Unit) (p : Option (Program String)) : Act (Option Pose) := do
  match ← launch tell p with
  | none => return none
  | some (run, program) => return some (← proceed tell wait run program)

/-- Starts `first`, and at its first pause starts `second`, which is refused while the first is
running; then lets the first finish. Each pause of the runs lets `wait` happen. The answer:
whether the first was running at that point, and the results of the second and the first start. -/
def startTwice (tell : Tell) (wait : Act Unit) (first second : Program String) :
    Act (Bool × Option Pose × Option Pose) := do
  let opened ← tryCatch (do pure (Except.ok (← launch tell (some first))))
    (fun e => pure (Except.error e))
  let between := (← now).state == .running
  let r2 ← start tell wait (some second)
  let r1 ← match opened with
    | .error e => throw e
    | .ok none => pure none
    | .ok (some (run, program)) => some <$> proceed tell wait run program
  return (between, r2, r1)

/-- The description of the controller: its state and the length of its path. -/
def describe (c : Controller) : String :=
  "RunController(state=" ++ c.state.name ++ ", path=" ++ toString c.path.size ++ " points)"

/-- The description of the engine the controller drives. -/
def describeEngine (c : Controller) : String :=
  Engine.describe c.settings.cellSize c.settings.stepDelay

end Controller

end Turtle
