import Turtle.Run.Controller

/-!
# Start calls as tasks of one event loop

`Controller.start` follows one start call, the work of others during its pauses given as one
action. Here several start calls are in flight at once, each a task of one event loop, and their
turns interleave in any order. With zero delays a start call suspends only in its pauses, each
pause is one turn of the loop, and everything between two pauses happens in one turn: the
listeners' reactions included.

* `Engine.advance` and `Engine.resume` cut a run of the engine at its pauses: a run goes on to its
  next pause, or ends.
* A `Task` is a start call: where it stands (`Stage`) and whose stop request it reads. Each run has
  a stop request of its own; the controller holds the latest run's, and a run started before keeps
  its own once a later start took the controller's (`Task.token`).
* `Task.turn` is what a call does in one turn: its launch, or the engine from its pause to the next
  one, with the end of the run when the run ends.
* A `World` is the controller's session with the calls made so far, and `World.turn` one turn of
  the loop (`Turn`): a new start call, a stop, a clear or a reset made by another task, or a turn
  of a start call.
-/

namespace Turtle

/-- A run paused before a leaf: the leaf, the work after it, the pose, and the leaves run so far. -/
structure Pending (ι : Type) where
  leaf : Leaf ι
  rest : Agenda ι
  pose : Pose
  steps : Nat

namespace Engine

variable {ι : Type} {m : Type → Type} [Monad m] [MonadExceptOf Fault m]

/-- A run from `pose` up to its next pause: it ends, or it waits before the next leaf. -/
def advance (probe : Probe m) (a : Agenda ι) (pose : Pose) (steps : Nat) :
    m (Outcome ⊕ Pending ι) :=
  match a.next with
  | none => pure (.inl ⟨pose, true, steps⟩)
  | some (l, rest) => do
    if ← probe.stopRequested then return .inl ⟨pose, false, steps⟩
    return .inr ⟨l, rest, pose, steps⟩

/-- A run after the pause before a leaf: the stop check, the step and its report, and the run up
to its next pause. -/
def resume (probe : Probe m) (cell : Scale) (k : Pending ι) : m (Outcome ⊕ Pending ι) := do
  if ← probe.stopRequested then return .inl ⟨k.pose, false, k.steps⟩
  let (q, sample) ← liftExcept (k.pose.step cell k.leaf.act)
  probe.report q sample
  advance probe k.rest q (k.steps + 1)

end Engine

/-- Where a start call stands between two turns of the loop. -/
inductive Stage where
  /-- made, and not yet run: it starts the given program, or the workspace's -/
  | created (p : Option (Program String))
  /-- run `run` of `program`, in the pause before the run -/
  | starting (run : Nat) (program : Program String)
  /-- run `run`, in the pause before a leaf, with the cell size of its engine -/
  | stepping (run : Nat) (cell : Scale) (k : Pending String)
  /-- returned: the last pose of its run, or none when the start was refused -/
  | returned (pose : Option Pose)
  /-- raised -/
  | raised (e : Fault)

/-- A start call: where it stands, and its own stop request once a later start took the
controller's (none while its run holds the controller's). -/
structure Task where
  stage : Stage
  token : Option Bool := none

/-- The run of a call in flight: announced, and not ended. -/
def Stage.run? : Stage → Option Nat
  | .starting run _ | .stepping run _ _ => some run
  | _ => none

/-- Where a call stands after a turn that ended with `r`: where the turn left it, or raised. -/
def Stage.ofResult : Except Fault Stage → Stage
  | .ok st => st
  | .error e => .raised e

namespace Task

variable (tell : Tell)

/-- Whether a run's stop request is set: the controller's while the run holds it, else its own. -/
def stopRequested : Option Bool → Act Bool
  | none => do pure (← Controller.now).stopRequested
  | some b => pure b

/-- The engine's probe for run `run` with stop request `token`; its pauses are turns of the loop,
so the probe itself does nothing in them. -/
def probe (run : Nat) (token : Option Bool) : Probe Act :=
  { Controller.probe tell (pure ()) run with stopRequested := stopRequested token }

/-- The end of run `run`: `Controller.finish`, where a run that no longer holds the controller's
stop request sets only its own, which nobody reads afterwards. -/
def finish (run : Nat) (token : Option Bool) (completed : Bool) : Act Unit :=
  match token with
  | none => Controller.finish tell run completed
  | some _ => do
    if (← Controller.now).runId == run then
      Controller.setState tell (if completed then .completed else .stopped)

/-- Runs `body`; if it fails, the run ends as not completed first and the failure goes on. -/
def guarded {α : Type} (run : Nat) (token : Option Bool) (body : Act α) : Act α :=
  tryCatch body fun e => do
    finish tell run token false
    throw e

/-- Where the call stands once its engine stopped: after the end of its run, or in a pause. -/
def settle (run : Nat) (token : Option Bool) (cell : Scale) : Outcome ⊕ Pending String → Act Stage
  | .inl out => do
    finish tell run token out.completed
    pure (.returned (some out.pose))
  | .inr k => pure (.stepping run cell k)

/-- The first turn of a call: refused, or its run announced and paused before the run. -/
def begin (p : Option (Program String)) : Act Stage := do
  match ← Controller.launch tell p with
  | none => pure (.returned none)
  | some (run, program) => pure (.starting run program)

/-- The turn after the pause before the run: the stop check, and the engine up to its first
pause. -/
def resumeStart (run : Nat) (token : Option Bool) (program : Program String) : Act Stage := do
  let c ← Controller.now
  let r ← guarded tell run token do
    if ← stopRequested token then return .inl ⟨c.pose, false, 0⟩
    Engine.advance (probe tell run token) program.prune c.pose 0
  settle tell run token c.settings.cellSize r

/-- The turn after the pause before a leaf: the engine up to its next pause. -/
def resumeStep (run : Nat) (token : Option Bool) (cell : Scale) (k : Pending String) :
    Act Stage := do
  let r ← guarded tell run token (Engine.resume (probe tell run token) cell k)
  settle tell run token cell r

/-- What a call does in its turn, and where it stands after; a call that returned or raised does
nothing. -/
def turn (t : Task) : Act Stage :=
  match t.stage with
  | .created p => begin tell p
  | .starting run program => resumeStart tell run t.token program
  | .stepping run cell k => resumeStep tell run t.token cell k
  | st => pure st

/-- The call keeps its run's stop request, `b` being the controller's, when a later start takes
the controller's. -/
def handOver (b : Bool) (t : Task) : Task := { t with token := some (t.token.getD b) }

end Task

/-- The controller accepts a start of `p`: the program is not empty and no run is going. -/
def Controller.accepts (c : Controller) (p : Option (Program String)) : Bool :=
  !((programFor c p).isEmpty || c.state == .running)

/-- The call launches a run when it begins and the controller accepts it. -/
def Task.launches (c : Controller) (t : Task) : Bool :=
  match t.stage with
  | .created p => c.accepts p
  | _ => false

/-- The controller's session with the start calls made so far, in the order they were made. -/
structure World where
  session : Session
  tasks : List Task

/-- A turn of the event loop: a new start call, a stop, a clear or a reset made by another task,
or a turn of the `i`-th start call. -/
inductive Turn where
  | spawn (p : Option (Program String))
  | stop
  | clearAll
  | reset
  | run (i : Nat)

namespace World

/-- A call made by another task, synchronously: its changes stay, whether or not it raised. -/
def call (w : World) (a : Act Unit) : World := { w with session := (a.run.run w.session).2 }

/-- The turn of the call `t`, the `i`-th: what it did, and where it stands after. A call that
launches takes the controller's new stop request, and every call before keeps its own. -/
def resume (tell : Tell) (w : World) (i : Nat) (t : Task) : World :=
  let c := w.session.ctl
  let (r, s) := (t.turn tell).run.run w.session
  let stage := Stage.ofResult r
  if t.launches c then
    { session := s, tasks := (w.tasks.map (Task.handOver c.stopRequested)).set i { stage } }
  else
    { session := s, tasks := w.tasks.set i { t with stage } }

/-- One turn of the loop. -/
def turn (tell : Tell) (w : World) : Turn → World
  | .spawn p => { w with tasks := w.tasks ++ [{ stage := .created p }] }
  | .stop => w.call Controller.stop
  | .clearAll => w.call (Controller.clearAll tell)
  | .reset => w.call (Controller.reset tell)
  | .run i =>
    match w.tasks[i]? with
    | some t => w.resume tell i t
    | none => w

end World

end Turtle
