import Turtle.Proofs.Separation

/-!
# Listeners hear what the controller holds

The controller delivers each notice to the recorders first, and then to a listener that may react:
keep counts of its own, stop, clear, or raise (`Controller.Reaction`). Every write of the state, the
pose or the path is followed at once by the notice of the value written, and the recorders hear it
before any reaction runs. So the last pose, path and state heard are the controller's
(`Controller.Echoes`), whatever the reactions do and however the turns of start calls and of other
tasks interleave (`World.listeners_hear_controller`); after a turn in which the current call's run
was detached, they are the origin, the one-point path and `IDLE`.

The order matters. A listener placed before the recorders that clears returns into the loop of the
notice it interrupted, so the listeners after it hear the detached run's value last. And a run
detached while it announces `RUNNING` still resets after the clear: the listeners hear its origin
pose and its one-point path once more, the same values the clear published.
-/

namespace Turtle

/-- The pose a notice carries. -/
def Notice.pose? : Notice → Option Pose
  | .pose q => some q
  | _ => none

/-- The path a notice carries. -/
def Notice.path? : Notice → Option (Array Point)
  | .path pts => some pts
  | _ => none

/-- The state a notice carries. -/
def Notice.state? : Notice → Option RunState
  | .state st => some st
  | _ => none

/-- The write a notice announces. -/
def Notice.apply : Notice → Controller → Controller
  | .pose q, c => { c with pose := q }
  | .path pts, c => { c with path := pts }
  | .state st, c => { c with state := st }

/-- The last notice of the kind `f` picks out, in the order the notices were heard. -/
def lastHeard {α : Type} (f : Notice → Option α) (ns : Array Notice) : Option α :=
  ns.foldl (fun acc n => (f n).or acc) none

section LastHeard

variable {α : Type} {f : Notice → Option α}

@[simp] theorem lastHeard_empty : lastHeard f #[] = none := rfl

@[simp] theorem lastHeard_push (ns : Array Notice) (n : Notice) :
    lastHeard f (ns.push n) = (f n).or (lastHeard f ns) := by
  simp [lastHeard]

end LastHeard

namespace Controller

variable {α : Type}

/-- The listeners hear what the controller holds: the last pose, path and state notices heard, if
any, are the controller's pose, path and state. -/
structure Echoes (s : Session) : Prop where
  pose : ∀ q ∈ lastHeard Notice.pose? s.notices, q = s.ctl.pose
  path : ∀ pts ∈ lastHeard Notice.path? s.notices, pts = s.ctl.path
  state : ∀ st ∈ lastHeard Notice.state? s.notices, st = s.ctl.state

section Echoes

variable {s s' : Session}

theorem echoes_of_empty (h : s.notices = #[]) : Echoes s where
  pose := by simp [h]
  path := by simp [h]
  state := by simp [h]

/-- Only the controller and the notices heard matter. -/
theorem Echoes.congr (h : Echoes s) (hctl : s'.ctl = s.ctl) (hn : s'.notices = s.notices) :
    Echoes s' where
  pose := by rw [hn, hctl]; exact h.pose
  path := by rw [hn, hctl]; exact h.path
  state := by rw [hn, hctl]; exact h.state

/-- A write of the fields no notice announces (the run number, the stop request, the workspace)
keeps the listeners in step. -/
theorem Echoes.of_ctl (h : Echoes s) {c : Controller} (hpose : c.pose = s.ctl.pose)
    (hpath : c.path = s.ctl.path) (hstate : c.state = s.ctl.state) :
    Echoes { s with ctl := c } where
  pose q hq := (h.pose q hq).trans hpose.symm
  path pts hpts := (h.path pts hpts).trans hpath.symm
  state st hst := (h.state st hst).trans hstate.symm

/-- **A write heard at once.** A write followed by the record of its notice keeps the listeners in
step: the notice is the last of its kind, and the other kinds are untouched. -/
theorem Echoes.announce (h : Echoes s) (n : Notice) :
    Echoes { s with ctl := n.apply s.ctl, notices := s.notices.push n } := by
  cases n with
  | pose q =>
    exact ⟨by simp [Notice.pose?, Notice.apply],
      by simpa [Notice.path?, Notice.apply] using h.path,
      by simpa [Notice.state?, Notice.apply] using h.state⟩
  | path pts =>
    exact ⟨by simpa [Notice.pose?, Notice.apply] using h.pose,
      by simp [Notice.path?, Notice.apply],
      by simpa [Notice.state?, Notice.apply] using h.state⟩
  | state st =>
    exact ⟨by simpa [Notice.pose?, Notice.apply] using h.pose,
      by simpa [Notice.path?, Notice.apply] using h.path, by simp [Notice.state?, Notice.apply]⟩

end Echoes

/-! ## Deliveries that reach the recorders first -/

section Listening

variable {react : Notice → Act Unit} {tell : Tell}
  (htell : ∀ n, tell n = (record n >>= fun _ => react n)) (hreact : ∀ n, Keeps Echoes (react n))
include htell hreact

/-- A write announced to recorders that hear it first keeps the listeners in step, whatever the
reaction after them does. -/
theorem keeps_announce (n : Notice) : Keeps Echoes (change n.apply >>= fun _ => tell n) := by
  intro s hs
  have hrec : (record n).run.run { s with ctl := n.apply s.ctl } =
      (.ok (), { s with ctl := n.apply s.ctl, notices := s.notices.push n }) := rfl
  rw [run_change_bind, htell, run_bind_ok hrec]
  exact hreact n _ (hs.announce n)

theorem keeps_publishPose_echo (q : Pose) : Keeps Echoes (publishPose tell q) :=
  keeps_announce htell hreact (.pose q)

theorem keeps_publishPath_echo (pts : Array Point) : Keeps Echoes (publishPath tell pts) :=
  keeps_announce htell hreact (.path pts)

theorem keeps_setState_echo (st : RunState) : Keeps Echoes (setState tell st) :=
  keeps_announce htell hreact (.state st)

theorem keeps_reset_echo : Keeps Echoes (reset tell) :=
  keeps_now_bind fun _ _ => (keeps_publishPose_echo htell hreact _).bind fun _ =>
    keeps_publishPath_echo htell hreact _

theorem keeps_clearAll_echo : Keeps Echoes (clearAll tell) :=
  (keeps_change fun _ hs => hs.of_ctl rfl rfl rfl).bind fun _ =>
    (keeps_reset_echo htell hreact).bind fun _ => keeps_setState_echo htell hreact _

end Listening

/-- **Every reaction keeps the listeners in step**: its own writes are stops and detaches, which no
notice announces, and the notices of its clears reach the recorders first. -/
theorem Reaction.echoes {a : Act Unit} (h : Reaction a) : Keeps Echoes a := by
  induction h with
  | done => exact keeps_pure ()
  | raise e => exact keeps_throw e
  | read _ ih => exact keeps_get_bind fun s _ => ih s
  | count hf => exact keeps_modify fun s hs => hs.congr (hf s).1 (hf s).2
  | seq _ _ iha ihb => exact iha.bind fun _ => ihb
  | stop => exact keeps_stop fun _ hs _ => hs.of_ctl rfl rfl rfl
  | clear _ _ htell ih => exact keeps_clearAll_echo htell ih
  | abandon e => exact (keeps_change fun _ hs => hs.of_ctl rfl rfl rfl).bind fun _ => keeps_throw e

/-! ## Every turn keeps the listeners in step -/

section Turns

variable {react : Notice → Act Unit} {tell : Tell}
  (htell : ∀ n, tell n = (record n >>= fun _ => react n)) (hreact : ∀ n, Reaction (react n))
include htell hreact

theorem keeps_report_echo (wait : Act Unit) (run : Nat) (q : Pose) (sample : Option Point) :
    Keeps Echoes ((probe tell wait run).report q sample) := by
  have hr : ∀ n, Keeps Echoes (react n) := fun n => (hreact n).echoes
  dsimp only [probe]
  refine keeps_now_bind fun _ _ => keeps_ite (keeps_pure ()) ?_
  refine (keeps_publishPose_echo htell hr q).bind fun _ => ?_
  cases sample with
  | none => exact keeps_pure ()
  | some pt =>
    exact keeps_now_bind fun _ _ => keeps_ite (keeps_publishPath_echo htell hr _) (keeps_pure ())

theorem keeps_finish_echo (run : Nat) (token : Option Bool) (completed : Bool) :
    Keeps Echoes (Task.finish tell run token completed) :=
  keeps_task_finish (keeps_setState_echo htell fun n => (hreact n).echoes)
    (fun _ hs => hs.of_ctl rfl rfl rfl) run token completed

/-- A launch keeps the listeners in step: its new run number and stop request are not announced,
and its state, pose and path are. -/
theorem keeps_begin_echo (p : Option (Program String)) : Keeps Echoes (Task.begin tell p) := by
  have hr : ∀ n, Keeps Echoes (react n) := fun n => (hreact n).echoes
  have hlaunch : Keeps Echoes (launch tell p) := by
    refine keeps_now_bind fun _ _ => keeps_ite (keeps_pure _) ?_
    refine (keeps_change fun _ hs => hs.of_ctl rfl rfl rfl).bind fun _ => ?_
    refine (keeps_tryCatch ((keeps_setState_echo htell hr _).bind fun _ =>
      keeps_reset_echo htell hr) fun e => ?_).bind fun _ => keeps_pure _
    exact (keeps_finish_echo htell hreact _ none false).bind fun _ => keeps_throw e
  refine hlaunch.bind fun o => ?_
  rcases o with _ | ⟨run, program⟩ <;> exact keeps_pure _

theorem keeps_task_turn_echo (t : Task) : Keeps Echoes (t.turn tell) := by
  cases hrun : t.stage.run? with
  | some run =>
    -- a call in flight: the reports of its steps, and the end of its run
    exact keeps_turn hrun (keeps_report_echo htell hreact (pure ()) run)
      (keeps_finish_echo htell hreact run t.token)
  | none =>
    obtain ⟨stage, token⟩ := t
    cases stage with
    | created p => exact keeps_begin_echo htell hreact p
    | starting | stepping => simp [Stage.run?] at hrun
    | returned _ | raised _ => exact keeps_pure _

end Turns

end Controller

namespace World

open Controller

variable {react : Notice → Act Unit} {tell : Tell}

/-- Every turn keeps the listeners in step: a new call changes nothing, the calls of other tasks
are reactions, and a call's turn is made of writes heard at once and of reactions. -/
theorem echoes_turn (htell : ∀ n, tell n = (record n >>= fun _ => react n))
    (hreact : ∀ n, Reaction (react n)) {w : World} (hw : Echoes w.session) :
    ∀ τ, Echoes (w.turn tell τ).session
  | .spawn _ => hw
  | .stop => Reaction.stop.echoes _ hw
  | .clearAll => keeps_clearAll_echo htell (fun n => (hreact n).echoes) _ hw
  | .reset => keeps_reset_echo htell (fun n => (hreact n).echoes) _ hw
  | .run i => by
    cases ht : w.tasks[i]? with
    | none =>
      simp only [World.turn, ht]
      exact hw
    | some t =>
      rw [turn_run_session ht]
      exact keeps_task_turn_echo htell hreact t _ hw

theorem echoes_foldl (htell : ∀ n, tell n = (record n >>= fun _ => react n))
    (hreact : ∀ n, Reaction (react n)) (τs : List Turn) :
    ∀ {w : World}, Echoes w.session → Echoes (τs.foldl (World.turn tell) w).session := by
  induction τs with
  | nil => exact id
  | cons τ τs ih => exact fun hw => ih (echoes_turn htell hreact hw τ)

/-- **Listeners hear what the controller holds.** Let every notice reach the recorders first and
then a listener whose reaction never raises. From a fresh controller, after any sequence of turns
of start calls and of other tasks' stops, clears and resets:
* the last pose, path and state heard, if any, are the controller's pose, path and state;
* if the next turn of the current call detaches its run, then after it the last pose, path and
  state heard, if any, are the origin, the one-point path and `IDLE`. -/
theorem listeners_hear_controller (hreact : ∀ n, Reaction (react n)) (hcalm : ∀ n, Calm (react n))
    (S : Settings) (ws : Option Workspace) (τs : List Turn) :
    let tell : Tell := fun n => record n >>= fun _ => react n
    let w := τs.foldl (World.turn tell) ⟨{ ctl := Controller.create S ws }, []⟩
    Echoes w.session ∧
      ∀ {i : Nat} {t : Task}, w.tasks[i]? = some t → t.stage.run? = some w.session.ctl.runId →
        (w.turn tell (.run i)).session.ctl.runId ≠ w.session.ctl.runId →
        (∀ st ∈ lastHeard Notice.state? (w.turn tell (.run i)).session.notices, st = .idle) ∧
        (∀ q ∈ lastHeard Notice.pose? (w.turn tell (.run i)).session.notices,
          q = Pose.origin (w.turn tell (.run i)).session.ctl.settings) ∧
        (∀ pts ∈ lastHeard Notice.path? (w.turn tell (.run i)).session.notices,
          pts = #[(Pose.origin (w.turn tell (.run i)).session.ctl.settings).position]) := by
  intro tell w
  have htell : ∀ n, tell n = (record n >>= fun _ => react n) := fun _ => rfl
  have hsettled : ∀ n, Settled (tell n) := fun n =>
    (Calm.seq (.count (f := fun s => { s with notices := s.notices.push n }) fun _ => rfl)
      (hcalm n)).settled
  have hecho : Echoes w.session := echoes_foldl htell hreact τs (echoes_of_empty rfl)
  refine ⟨hecho, fun {i t} ht hrun hne => ?_⟩
  -- the current call's turn leaves its detached run released, and the listeners in step
  have hsep := (reachable_foldl τs (.start { ctl := Controller.create S ws }
    (by simp [Controller.create]))).separated hsettled
  rcases hres : (t.turn tell).run.run w.session with ⟨res, s'⟩
  have hs' : (w.turn tell (.run i)).session = s' := by rw [turn_run_session ht, hres]
  obtain ⟨-, -, hreleased⟩ := turn_current hsettled hrun ((hsep.fits ht hrun).2.1 rfl) rfl
    (hsep.running.2 ⟨_, _, ht, hrun⟩) hres
  have hecho' := echoes_turn htell hreact hecho (.run i)
  rw [hs'] at hne hecho' ⊢
  obtain ⟨hidle, hpose, hpath⟩ := hreleased hne
  exact ⟨fun st h => (hecho'.state st h).trans hidle, fun q h => (hecho'.pose q h).trans hpose,
    fun pts h => (hecho'.path pts h).trans hpath⟩

/-- A listener that clears everything at the `k`-th pose it hears; the notices of the clear go to
the recorders only. -/
def clearAtPose (k : Nat) : Notice → Act Unit
  | .pose _ => do
    modify fun s => { s with poses := s.poses + 1 }
    let s ← get
    if s.poses = k then clearAll fun n => record n >>= fun _ => pure ()
  | _ => pure ()

theorem clearAtPose_reaction (k : Nat) : ∀ n, Reaction (clearAtPose k n)
  | .pose _ => .seq (.count fun _ => ⟨rfl, rfl⟩)
      (.read fun _ => .ite (.clear (fun _ => pure ()) (fun _ => .done) fun _ => rfl) .done)
  | .state _ => .done
  | .path _ => .done

theorem clearAtPose_calm (k : Nat) : ∀ n, Calm (clearAtPose k n)
  | .pose _ => .seq (.count fun _ => rfl) (.read fun s => by
      by_cases h : s.poses = k
      · simp only [h, ↓reduceIte]
        exact .clear fun _ => .seq (.count fun _ => rfl) .done
      · simp only [h, ↓reduceIte]
        exact .done)
  | .state _ => .done
  | .path _ => .done

/-- Recorders and then a listener that clears everything, from a fresh controller. With the clear
at the first pose, the origin the start of a one-move program publishes, the start call's first
turn detaches its own run, and after it the listeners heard what the controller holds: `IDLE`, the
origin and the one-point path. With the clear at the second pose, the pose of a one-turn program's
leaf, the call's third turn detaches its run, and after it the last state, pose and path heard are
`IDLE`, the origin and the one-point path. -/
theorem clearing_listener_hears_reset :
    let tell₁ : Tell := fun n => record n >>= fun _ => clearAtPose 1 n
    let w₁ := [.spawn (some [.leaf "a" (.move .forward 1)]), .run 0].foldl (World.turn tell₁)
      (⟨{ ctl := Controller.create {} none }, []⟩ : World)
    let tell₂ : Tell := fun n => record n >>= fun _ => clearAtPose 2 n
    let w₂ := [.spawn (some [.leaf "a" (.turn .right 90)]), .run 0, .run 0].foldl
      (World.turn tell₂) (⟨{ ctl := Controller.create {} none }, []⟩ : World)
    let w₃ := w₂.turn tell₂ (.run 0)
    (∀ k n, Reaction (clearAtPose k n)) ∧ (∀ k n, Calm (clearAtPose k n)) ∧
      (Echoes w₁.session ∧ w₁.session.ctl.state = .idle ∧
        w₁.session.ctl.pose = Pose.origin {} ∧ w₁.session.ctl.path = #[(Pose.origin {}).position]) ∧
      ∃ t, w₂.tasks[0]? = some t ∧ t.stage.run? = some w₂.session.ctl.runId ∧
        w₃.session.ctl.runId ≠ w₂.session.ctl.runId ∧
        (∀ st ∈ lastHeard Notice.state? w₃.session.notices, st = .idle) ∧
        (∀ q ∈ lastHeard Notice.pose? w₃.session.notices, q = Pose.origin w₃.session.ctl.settings) ∧
        (∀ pts ∈ lastHeard Notice.path? w₃.session.notices,
          pts = #[(Pose.origin w₃.session.ctl.settings).position]) := by
  intro tell₁ w₁ tell₂ w₂ w₃
  -- the clear at the origin the start publishes: the launch turn detaches the run
  have hecho₁ := (listeners_hear_controller (clearAtPose_reaction 1) (clearAtPose_calm 1) {} none
    [.spawn (some [.leaf "a" (.move .forward 1)]), .run 0]).1
  have hidle₁ : w₁.session.ctl.state = .idle := by decide +kernel
  -- the clear at the pose of the leaf: the call's third turn detaches the run
  obtain ⟨-, hlaw⟩ := listeners_hear_controller (clearAtPose_reaction 2) (clearAtPose_calm 2) {}
    none [.spawn (some [.leaf "a" (.turn .right 90)]), .run 0, .run 0]
  have hid : w₂.session.ctl.runId = 1 := by decide +kernel
  have hid₃ : w₃.session.ctl.runId = 2 := by decide +kernel
  have h0 : (w₂.tasks[0]?.map fun t => t.stage.run?) = some (some w₂.session.ctl.runId) := by
    decide +kernel
  obtain ⟨t, ht, hrun⟩ := Option.map_eq_some_iff.1 h0
  have hne : w₃.session.ctl.runId ≠ w₂.session.ctl.runId := by rw [hid₃, hid]; decide
  exact ⟨clearAtPose_reaction, clearAtPose_calm, ⟨hecho₁, hidle₁, rfl, rfl⟩, t, ht, hrun, hne,
    hlaw ht hrun hne⟩

end World

end Turtle
