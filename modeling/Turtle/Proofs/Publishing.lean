import Turtle.Run.Controller
import Turtle.Proofs.Replay

/-!
# A controller run publishes its trace

Here the listeners of a run, and whatever else happens while the run pauses, never fail and do
nothing to the controller but ask the run to stop (`Controller.Quiet`); the listeners record
what they receive. Such a run touches the controller only through what it publishes, so it is
followed through `Controller.unstopped`, the controller with its stop request cleared.

A start of a program with a known trace `T` is followed step by step: `launch_quiet` announces the
run and resets, `replay_quiet` replays the trace through the controller's probe, publishing one
pose per visit and, after each move, the path extended by its position (`Controller.published`),
and the end of the run announces how it ended. The main statement, `Controller.start_publishes`,
says that the run publishes the origin and then a prefix of the trace, that the path is the origin
followed by the positions of the moves of that prefix, and that the run completes exactly when
the engine ran and went through every leaf; the engine runs exactly when no stop is requested
when the pause before the run ends (`Controller.stoppedInStartPause`).
-/

namespace Turtle

namespace Controller

variable {α β : Type}

/-! ## Running actions -/

theorem run_bind_ok {x : Act α} {f : α → Act β} {s s' : Session} {a : α}
    (h : x.run.run s = (.ok a, s')) : (x >>= f).run.run s = (f a).run.run s' := by
  simp only [ExceptT.run_bind, StateT.run_bind, h]
  rfl

@[simp] theorem run_now_bind (f : Controller → Act α) (s : Session) :
    (now >>= f).run.run s = (f s.ctl).run.run s := rfl

@[simp] theorem run_change_bind (f : Controller → Controller) (g : Unit → Act α)
    (s : Session) :
    (change f >>= g).run.run s = (g ()).run.run { s with ctl := f s.ctl } := rfl

theorem guarded_ok {tell : Tell} {run : Nat} {body : Act α} {s s' : Session} {a : α}
    (h : body.run.run s = (.ok a, s')) : (guarded tell run body).run.run s = (.ok a, s') := by
  have h' : StateT.run body s = (.ok a, s') := h
  show (ExceptT.tryCatch body _).run.run s = _
  simp only [ExceptT.tryCatch, ExceptT.run_mk, StateT.run_bind, h']
  rfl

/-- The controller with its stop request cleared. -/
def unstopped (c : Controller) : Controller := { c with stopRequested := false }

section Unstopped

variable (c : Controller)

@[simp] theorem unstopped_settings : c.unstopped.settings = c.settings := rfl
@[simp] theorem unstopped_state : c.unstopped.state = c.state := rfl
@[simp] theorem unstopped_pose : c.unstopped.pose = c.pose := rfl
@[simp] theorem unstopped_path : c.unstopped.path = c.path := rfl
@[simp] theorem unstopped_runId : c.unstopped.runId = c.runId := rfl

end Unstopped

/-- An action that does not fail, adds `heard` to the notices, and changes the controller at most
by asking a running run to stop: what listeners and other tasks that only call `stop` do. -/
def Quiet (act : Act Unit) (heard : List Notice) : Prop :=
  ∀ s : Session, ∃ s' : Session, act.run.run s = (.ok (), s') ∧
    s'.notices.toList = s.notices.toList ++ heard ∧
    (s'.ctl = s.ctl ∨ s.ctl.state = .running ∧ s'.ctl = { s.ctl with stopRequested := true })

theorem Quiet.run {act : Act Unit} {heard : List Notice} (h : Quiet act heard) (s : Session) :
    ∃ s', act.run.run s = (.ok (), s') ∧ s'.notices.toList = s.notices.toList ++ heard ∧
      s'.ctl.unstopped = s.ctl.unstopped := by
  obtain ⟨s', hrun, hn, hc | ⟨-, hc⟩⟩ := h s
  · exact ⟨s', hrun, hn, by rw [hc]⟩
  · exact ⟨s', hrun, hn, by rw [hc]; rfl⟩

/-! ## Publishing under quiet listeners -/

section Quiet

variable {tell : Tell}

/-- A write followed by a quiet delivery publishes the notice and leaves the written controller,
up to the stop request. -/
theorem change_tell_quiet (htell : ∀ n, Quiet (tell n) [n]) (f : Controller → Controller)
    (n : Notice) (s : Session) :
    ∃ s', (change f >>= fun _ => tell n).run.run s = (.ok (), s') ∧
      s'.notices.toList = s.notices.toList ++ [n] ∧ s'.ctl.unstopped = (f s.ctl).unstopped := by
  obtain ⟨s', hrun, hn, hc⟩ := (htell n).run { s with ctl := f s.ctl }
  exact ⟨s', (run_bind_ok rfl).trans hrun, hn, hc⟩

theorem setState_quiet (htell : ∀ n, Quiet (tell n) [n]) (st : RunState) (s : Session) :
    ∃ s', (setState tell st).run.run s = (.ok (), s') ∧
      s'.notices.toList = s.notices.toList ++ [.state st] ∧
      s'.ctl.unstopped = { s.ctl.unstopped with state := st } :=
  change_tell_quiet htell _ _ s

theorem publishPose_quiet (htell : ∀ n, Quiet (tell n) [n]) (q : Pose) (s : Session) :
    ∃ s', (publishPose tell q).run.run s = (.ok (), s') ∧
      s'.notices.toList = s.notices.toList ++ [.pose q] ∧
      s'.ctl.unstopped = { s.ctl.unstopped with pose := q } :=
  change_tell_quiet htell _ _ s

theorem publishPath_quiet (htell : ∀ n, Quiet (tell n) [n]) (pts : Array Point) (s : Session) :
    ∃ s', (publishPath tell pts).run.run s = (.ok (), s') ∧
      s'.notices.toList = s.notices.toList ++ [.path pts] ∧
      s'.ctl.unstopped = { s.ctl.unstopped with path := pts } :=
  change_tell_quiet htell _ _ s

theorem reset_quiet (htell : ∀ n, Quiet (tell n) [n]) (s : Session) :
    let o := Pose.origin s.ctl.settings
    ∃ s', (reset tell).run.run s = (.ok (), s') ∧
      s'.notices.toList = s.notices.toList ++ [.pose o, .path #[o.position]] ∧
      s'.ctl.unstopped = { s.ctl.unstopped with pose := o, path := #[o.position] } := by
  intro o
  obtain ⟨s₁, hrun₁, hn₁, hc₁⟩ := publishPose_quiet htell o s
  obtain ⟨s₂, hrun₂, hn₂, hc₂⟩ := publishPath_quiet htell #[o.position] s₁
  refine ⟨s₂, ?_, by rw [hn₂, hn₁, List.append_assoc]; rfl, by rw [hc₂, hc₁]⟩
  exact (run_bind_ok rfl).trans ((run_bind_ok hrun₁).trans hrun₂)

theorem finish_quiet (htell : ∀ n, Quiet (tell n) [n]) {run : Nat} (completed : Bool)
    (s : Session) (hrun : s.ctl.runId = run) :
    let ending := if completed then RunState.completed else .stopped
    ∃ s', (finish tell run completed).run.run s = (.ok (), s') ∧
      s'.notices.toList = s.notices.toList ++ [.state ending] ∧
      s'.ctl.unstopped = { s.ctl.unstopped with state := ending } := by
  intro ending
  subst hrun
  cases completed with
  | false =>
    -- a run that did not complete sets its stop request, which `unstopped` forgets
    obtain ⟨s', hrun', hn, hc⟩ := setState_quiet htell ending
      { s with ctl := { s.ctl with stopRequested := true } }
    refine ⟨s', ?_, hn, hc⟩
    simp only [finish, Bool.not_false, ↓reduceIte, run_change_bind, run_now_bind,
      beq_self_eq_true]
    exact hrun'
  | true =>
    obtain ⟨s', hrun', hn, hc⟩ := setState_quiet htell ending s
    refine ⟨s', ?_, hn, hc⟩
    simp only [finish, Bool.not_true, Bool.false_eq_true, ↓reduceIte, run_now_bind,
      beq_self_eq_true]
    exact hrun'

end Quiet

/-! ## What a run publishes -/

variable {ι : Type}

/-- The path after a step with the given sample. -/
def extend (path : Array Point) : Option Point → Array Point
  | some pt => path.push pt
  | none => path

/-- The path after the visits `vs`, from `path`. -/
def trail (path : Array Point) : List (Visit ι) → Array Point
  | [] => path
  | v :: vs => trail (extend path v.sample) vs

/-- The notices a run publishes for the visits `vs` from the path `path`: each pose, and after a
move the path extended by its position. -/
def published (path : Array Point) : List (Visit ι) → List Notice
  | [] => []
  | v :: vs => .pose v.pose :: (v.sample.map fun pt => .path (path.push pt)).toList ++
      published (extend path v.sample) vs

theorem trail_toList (path : Array Point) :
    ∀ vs : List (Visit ι), (trail path vs).toList = path.toList ++ vs.filterMap Visit.sample
  | [] => by simp [trail]
  | v :: vs => by
    cases h : v.sample with
    | none => simp [trail, extend, h, trail_toList path vs]
    | some pt => simp [trail, extend, h, trail_toList _ vs]

section Run

variable {tell : Tell} {wait : Act Unit}

theorem report_quiet (htell : ∀ n, Quiet (tell n) [n]) (wait : Act Unit) {run : Nat} (q : Pose)
    (sample : Option Point) (s : Session) (hrun : s.ctl.runId = run) :
    ∃ s', ((probe tell wait run).report q sample).run.run s = (.ok (), s') ∧
      s'.notices.toList = s.notices.toList ++
        (.pose q :: (sample.map fun pt => .path (s.ctl.path.push pt)).toList) ∧
      s'.ctl.unstopped = { s.ctl.unstopped with pose := q, path := extend s.ctl.path sample } := by
  obtain ⟨s₁, hrun₁, hn₁, hc₁⟩ := publishPose_quiet htell q s
  have hid : s₁.ctl.runId = run := by simpa [hrun] using congrArg Controller.runId hc₁
  have hpath : s₁.ctl.path = s.ctl.path := by simpa using congrArg Controller.path hc₁
  -- the run is current, so the step is published
  dsimp only [probe]
  rw [run_now_bind]
  simp only [hrun, bne_self_eq_false, Bool.false_eq_true, ↓reduceIte]
  cases sample with
  | none =>
    refine ⟨s₁, (run_bind_ok hrun₁).trans rfl, by simpa using hn₁, by rw [hc₁]; rfl⟩
  | some pt =>
    obtain ⟨s₂, hrun₂, hn₂, hc₂⟩ := publishPath_quiet htell (s.ctl.path.push pt) s₁
    refine ⟨s₂, ?_, by simp [hn₂, hn₁], by rw [hc₂, hc₁]; rfl⟩
    rw [run_bind_ok hrun₁]
    dsimp only
    rw [run_now_bind]
    simp only [hid, beq_self_eq_true, ↓reduceIte, hpath]
    exact hrun₂

@[simp] theorem probe_stopRequested_bind {run : Nat} (f : Bool → Act α) (s : Session) :
    ((probe tell wait run).stopRequested >>= f).run.run s = (f s.ctl.stopRequested).run.run s :=
  rfl

@[simp] theorem probe_pause {run : Nat} : (probe tell wait run).pause = wait := rfl

/-- **Replaying under quiet listeners.** A replay of the current run publishes a prefix of the
visits: each pose and, after a move, the path extended by its position; it leaves the controller
at the last pose of the prefix with the path extended by the prefix's moves, and it completes
exactly when the prefix is every visit. -/
theorem replay_quiet (htell : ∀ n, Quiet (tell n) [n]) (hwait : Quiet wait []) {run : Nat} :
    ∀ (T : List (Visit ι)) (pose : Pose) (steps : Nat) (s : Session), s.ctl.runId = run →
      ∃ k ≤ T.length, ∃ s', (Engine.replay (probe tell wait run) T pose steps).run.run s =
          (.ok ⟨((T.take k).map Visit.pose).getLastD pose, decide (k = T.length), steps + k⟩,
            s') ∧
        s'.notices.toList = s.notices.toList ++ published s.ctl.path (T.take k) ∧
        s'.ctl.unstopped = { s.ctl.unstopped with
          pose := ((T.take k).map Visit.pose).getLastD s.ctl.pose,
          path := trail s.ctl.path (T.take k) }
  | [], pose, steps, s, _ => ⟨0, Nat.le_refl _, s, rfl, by simp [published], rfl⟩
  | v :: vs, pose, steps, s, hrun => by
    -- the replay stops at the check before the pause, at the check after it, or goes on
    cases hs : s.ctl.stopRequested with
    | true =>
      refine ⟨0, by simp, s, ?_, by simp [published], rfl⟩
      simp only [Engine.replay, probe_stopRequested_bind, hs, ↓reduceIte]
      rfl
    | false =>
    obtain ⟨s₁, hrun₁, hn₁, hc₁⟩ := hwait.run s
    cases hs₁ : s₁.ctl.stopRequested with
    | true =>
      refine ⟨0, by simp, s₁, ?_, by simp [published, hn₁], by rw [hc₁]; rfl⟩
      simp only [Engine.replay, probe_stopRequested_bind, hs, Bool.false_eq_true, ↓reduceIte,
        probe_pause]
      rw [run_bind_ok hrun₁, probe_stopRequested_bind, hs₁]
      rfl
    | false =>
    have hid₁ : s₁.ctl.runId = run := by simpa [hrun] using congrArg Controller.runId hc₁
    obtain ⟨s₂, hrun₂, hn₂, hc₂⟩ := report_quiet htell wait v.pose v.sample s₁ hid₁
    have hid₂ : s₂.ctl.runId = run := by simpa [hid₁] using congrArg Controller.runId hc₂
    obtain ⟨k, hk, s₃, hrun₃, hn₃, hc₃⟩ :=
      replay_quiet htell hwait vs v.pose (steps + 1) s₂ hid₂
    have hpath₁ : s₁.ctl.path = s.ctl.path := by simpa using congrArg Controller.path hc₁
    have hpose₂ : s₂.ctl.pose = v.pose := by simpa using congrArg Controller.pose hc₂
    have hpath₂ : s₂.ctl.path = extend s.ctl.path v.sample := by
      simpa [hpath₁] using congrArg Controller.path hc₂
    refine ⟨k + 1, by simpa using hk, s₃, ?_, ?_, ?_⟩
    · simp only [Engine.replay, probe_stopRequested_bind, hs, Bool.false_eq_true, ↓reduceIte,
        probe_pause]
      rw [run_bind_ok hrun₁, probe_stopRequested_bind, hs₁]
      simp only [Bool.false_eq_true, ↓reduceIte]
      rw [run_bind_ok hrun₂, hrun₃]
      simp only [List.take_succ_cons, List.map_cons, List.getLastD_cons, List.length_cons,
        Nat.add_right_cancel_iff, Nat.add_assoc, Nat.add_comm 1 k]
    · rw [hn₃, hn₂, hn₁, hpath₂, hpath₁]
      simp [published]
    · rw [hc₃, hc₂, hc₁, hpose₂, hpath₂]
      simp only [List.take_succ_cons, List.map_cons, List.getLastD_cons, trail]

end Run

/-! ## A start under quiet listeners -/

section Start

variable {tell : Tell} {wait : Act Unit}

/-- A start while a run is going is refused and changes nothing. -/
theorem launch_running (p : Option (Program String)) (s : Session)
    (hs : s.ctl.state = .running) : (launch tell p).run.run s = (.ok none, s) := by
  simp only [launch, run_now_bind, hs, beq_self_eq_true, Bool.or_true, ↓reduceIte]
  rfl

/-- An accepted start numbers the run, announces `RUNNING` and resets. -/
theorem launch_quiet (htell : ∀ n, Quiet (tell n) [n]) {p : Program String} (hp : p ≠ [])
    (s : Session) (hs : s.ctl.state ≠ .running) :
    let o := Pose.origin s.ctl.settings
    ∃ s', (launch tell (some p)).run.run s = (.ok (some (s.ctl.runId + 1, p)), s') ∧
      s'.notices.toList = s.notices.toList ++ [.state .running, .pose o, .path #[o.position]] ∧
      s'.ctl.unstopped = { s.ctl.unstopped with
        state := .running, pose := o, path := #[o.position], runId := s.ctl.runId + 1 } := by
  intro o
  obtain ⟨s₁, hrun₁, hn₁, hc₁⟩ := setState_quiet htell .running
    { s with ctl := { s.ctl with runId := s.ctl.runId + 1, stopRequested := false } }
  have hset : s₁.ctl.settings = s.ctl.settings := by
    simpa using congrArg Controller.settings hc₁
  obtain ⟨s₂, hrun₂, hn₂, hc₂⟩ := reset_quiet htell s₁
  rw [hset] at hn₂ hc₂
  refine ⟨s₂, ?_, ?_, by rw [hc₂, hc₁]; rfl⟩
  · have hempty : p.isEmpty = false := List.isEmpty_eq_false_iff.2 hp
    have hidle : (s.ctl.state == .running) = false := beq_eq_false_iff_ne.2 hs
    simp only [launch, run_now_bind, programFor, hempty, hidle, Bool.or_false, Bool.false_eq_true,
      ↓reduceIte, run_change_bind]
    rw [run_bind_ok (guarded_ok ((run_bind_ok hrun₁).trans hrun₂))]
    rfl
  · simp only [hn₂, hn₁, List.append_assoc]
    rfl

/-- The rest of a start of the current run, from a controller at `s.ctl.pose`: the run stops
during the first pause, publishing nothing more, exactly when a stop is requested when that pause
ends; otherwise it runs the engine, which publishes a prefix of the trace. It then announces how it
ended. -/
theorem proceed_quiet (htell : ∀ n, Quiet (tell n) [n]) (hwait : Quiet wait []) {run : Nat}
    {program : Program String} {T : List (Visit String)} (s : Session) (hrun : s.ctl.runId = run)
    (hT : program.trace s.ctl.settings.cellSize s.ctl.pose = .ok T) :
    let ran := !(wait.run.run s).2.ctl.stopRequested
    ∃ (k : Nat) (s' : Session), k ≤ T.length ∧ (ran = false → k = 0) ∧
      let last := ((T.take k).map Visit.pose).getLastD s.ctl.pose
      let ending := if ran ∧ k = T.length then RunState.completed else .stopped
      (proceed tell wait run program).run.run s = (.ok last, s') ∧
      s'.notices.toList =
        s.notices.toList ++ published s.ctl.path (T.take k) ++ [.state ending] ∧
      s'.ctl.unstopped = { s.ctl.unstopped with
        state := ending, pose := last, path := trail s.ctl.path (T.take k) } := by
  obtain ⟨s₁, hrun₁, hn₁, hc₁⟩ := hwait.run s
  have hid₁ : s₁.ctl.runId = run := by simpa [hrun] using congrArg Controller.runId hc₁
  have hpose₁ : s₁.ctl.pose = s.ctl.pose := by simpa using congrArg Controller.pose hc₁
  have hpath₁ : s₁.ctl.path = s.ctl.path := by simpa using congrArg Controller.path hc₁
  have hset₁ : s₁.ctl.settings = s.ctl.settings := by
    simpa using congrArg Controller.settings hc₁
  simp only [hrun₁]
  cases hs₁ : s₁.ctl.stopRequested with
  | true =>
    -- stopped during the first pause: the engine does not run
    obtain ⟨s₂, hrun₂, hn₂, hc₂⟩ := finish_quiet htell false s₁ hid₁
    refine ⟨0, s₂, Nat.zero_le _, fun _ => rfl, ?_, ?_, ?_⟩
    · have hbody :
          (perform tell wait run program).run.run s = (.ok (s.ctl.pose, false), s₁) := by
        rw [perform, run_bind_ok hrun₁, run_now_bind, hs₁, hpose₁]
        rfl
      simp only [proceed]
      rw [run_bind_ok (guarded_ok hbody), run_bind_ok hrun₂]
      rfl
    · simp [hn₂, hn₁, published]
    · rw [hc₂, hc₁]
      simp [trail]
  | false =>
    -- the engine runs from the controller's pose and replays the trace
    obtain ⟨k, hk, s₂, hrun₂, hn₂, hc₂⟩ :=
      replay_quiet htell hwait T s.ctl.pose 0 s₁ hid₁
    have hid₂ : s₂.ctl.runId = run := by simpa [hid₁] using congrArg Controller.runId hc₂
    obtain ⟨s₃, hrun₃, hn₃, hc₃⟩ :=
      finish_quiet htell (decide (k = T.length)) s₂ hid₂
    refine ⟨k, s₃, hk, fun h => (nomatch h), ?_, ?_, ?_⟩
    · have hbody : (perform tell wait run program).run.run s =
          (.ok (((T.take k).map Visit.pose).getLastD s.ctl.pose, decide (k = T.length)), s₂) := by
        rw [perform, run_bind_ok hrun₁, run_now_bind, hs₁, hpose₁, hset₁]
        simp only [Bool.false_eq_true, ↓reduceIte]
        rw [Engine.execute_eq_replay _ _ hT, run_bind_ok hrun₂]
        rfl
      simp only [proceed]
      rw [run_bind_ok (guarded_ok hbody), run_bind_ok hrun₃]
      rfl
    · rw [hn₃, hn₂, hn₁, hpath₁]
      simp
    · rw [hc₃, hc₂, hc₁, hpose₁, hpath₁]
      simp

/-- Whether a stop is requested when the pause before the run of a start of `p` from `s` ends: the
pause follows the launch, which numbered and announced the run and reset. -/
def stoppedInStartPause (tell : Tell) (wait : Act Unit) (p : Program String) (s : Session) : Bool :=
  (wait.run.run ((launch tell (some p)).run.run s).2).2.ctl.stopRequested

/-- **A start publishes the trace.** Let the listeners record each notice once and at most ask
the run to stop, and let whatever happens while the run pauses at most ask it to stop too. Let
`T` be the trace of a non-empty program `p` from the origin `o`: one visit per leaf, whose sample
is the new position exactly for a move. A start while a run is going is refused and changes
nothing. Otherwise the engine runs exactly when no stop is requested when the pause before the
run ends, and for some `k` leaves the run went through (none when the engine did not run), the
listeners receive `RUNNING`, the origin and the one-point path, then the pose
of each of the first `k` visits, each followed by the path extended by its position when it
moved, and last `COMPLETED` when the engine ran through every leaf and `STOPPED` otherwise: a
program without leaves ends `STOPPED` exactly when it was stopped during that pause. The
run returns the last of those poses (`o` when `k = 0`), and leaves the controller in that state,
at that pose, with the origin and the positions of the `k` visits' moves as its path. -/
theorem start_publishes (htell : ∀ n, Quiet (tell n) [n]) (hwait : Quiet wait [])
    (s : Session) {p : Program String} (hp : p ≠ []) {T : List (Visit String)}
    (hT : p.trace s.ctl.settings.cellSize (Pose.origin s.ctl.settings) = .ok T) :
    T.map Visit.leaf = p.allLeaves ∧
      (∀ v ∈ T, v.sample = if v.leaf.act.isMove then some v.pose.position else none) ∧
      (s.ctl.state = .running → (start tell wait (some p)).run.run s = (.ok none, s)) ∧
      (s.ctl.state ≠ .running →
        let o := Pose.origin s.ctl.settings
        let ran := !stoppedInStartPause tell wait p s
        ∃ (k : Nat) (s' : Session), k ≤ T.length ∧ (ran = false → k = 0) ∧
          let last := ((T.take k).map Visit.pose).getLastD o
          let ending := if ran ∧ k = T.length then RunState.completed else .stopped
          (start tell wait (some p)).run.run s = (.ok (some last), s') ∧
          s'.notices.toList = s.notices.toList ++ [.state .running, .pose o, .path #[o.position]] ++
            published #[o.position] (T.take k) ++ [.state ending] ∧
          s'.ctl.state = ending ∧ s'.ctl.pose = last ∧
          s'.ctl.path.toList = o.position :: (T.take k).filterMap Visit.sample) := by
  refine ⟨Program.trace_leaves hT, Program.trace_sample hT, fun hs => ?_, fun hs => ?_⟩
  · simp only [start]
    rw [run_bind_ok (launch_running _ s hs)]
    rfl
  intro o ran
  obtain ⟨s₁, hrun₁, hn₁, hc₁⟩ := launch_quiet htell hp s hs
  -- the engine runs when no stop is requested at the end of the pause after the launch
  have hran₁ : (!(wait.run.run s₁).2.ctl.stopRequested) = ran := by
    simp only [ran, stoppedInStartPause, hrun₁]
  have hid₁ : s₁.ctl.runId = s.ctl.runId + 1 := by simpa using congrArg Controller.runId hc₁
  have hset₁ : s₁.ctl.settings = s.ctl.settings := by
    simpa using congrArg Controller.settings hc₁
  have hpose₁ : s₁.ctl.pose = o := by simpa using congrArg Controller.pose hc₁
  have hpath₁ : s₁.ctl.path = #[o.position] := by simpa using congrArg Controller.path hc₁
  -- the run starts from the origin, where the trace is taken
  have hT₁ : p.trace s₁.ctl.settings.cellSize s₁.ctl.pose = .ok T := by
    rw [hset₁, hpose₁]
    exact hT
  obtain ⟨k, s₂, hk, hran, hrun₂, hn₂, hc₂⟩ :=
    proceed_quiet htell hwait s₁ hid₁ hT₁
  rw [hpose₁] at hrun₂ hc₂
  rw [hpath₁] at hn₂ hc₂
  rw [hran₁] at hran hn₂ hc₂
  refine ⟨k, s₂, hk, hran, ?_, ?_, ?_, ?_, ?_⟩
  · simp only [start]
    rw [run_bind_ok hrun₁]
    dsimp only
    rw [run_bind_ok hrun₂]
    rfl
  · rw [hn₂, hn₁]
  · simpa using congrArg Controller.state hc₂
  · simpa using congrArg Controller.pose hc₂
  · have h := congrArg (fun c => c.path.toList) hc₂
    simpa [trail_toList] using h

/-- Asking to stop publishes nothing and sets the stop request of a running run only: what another
task that stops the run during a pause does. -/
theorem stop_quiet : Quiet stop [] := fun s => by
  by_cases h : s.ctl.state = .running
  · exact ⟨_, rfl, by simp, .inr ⟨h, by simp [h]⟩⟩
  · exact ⟨_, rfl, by simp, .inl (by simp [h])⟩

/-- Recording listeners satisfy the hypotheses, and so do an empty pause and a pause in which
another task asks the run to stop. A start of a program whose block holds no leaf, on a new
controller, returns the origin and leaves the one-point path; it ends `COMPLETED` with the empty
pause, and `STOPPED` when the run is asked to stop during the pause before it. -/
theorem start_leafless_ends_as_asked :
    let s : Session := { ctl := Controller.create {} none }
    let p : Program String := [.block "r" 0 [.leaf "f" (.move .forward 1)]]
    let o := Pose.origin s.ctl.settings
    (∀ n, Quiet (notify 0 n) [n]) ∧ Quiet (pure ()) [] ∧ Quiet stop [] ∧ p ≠ [] ∧
      p.trace s.ctl.settings.cellSize o = .ok [] ∧ s.ctl.state ≠ .running ∧
      (∃ s', (start (notify 0) (pure ()) (some p)).run.run s = (.ok (some o), s') ∧
        s'.ctl.state = .completed ∧ s'.ctl.pose = o ∧ s'.ctl.path.toList = [o.position]) ∧
      (∃ s', (start (notify 0) stop (some p)).run.run s = (.ok (some o), s') ∧
        s'.ctl.state = .stopped ∧ s'.ctl.pose = o ∧ s'.ctl.path.toList = [o.position]) := by
  intro s p o
  have htell : ∀ n, Quiet (notify 0 n) [n] := fun n s => ⟨_, rfl, by simp, .inl rfl⟩
  have hwait : Quiet (pure ()) [] := fun s => ⟨s, rfl, by simp, .inl rfl⟩
  have hp : p ≠ [] := List.cons_ne_nil _ _
  have hT : p.trace s.ctl.settings.cellSize o = .ok [] := Program.trace_of_prune_nil _ rfl o
  have hidle : s.ctl.state ≠ .running := by decide
  -- the empty pause leaves the engine to run; the other pause stops the run before it
  have hgo : stoppedInStartPause (notify 0) (pure ()) p s = false := by decide
  have hhalt : stoppedInStartPause (notify 0) stop p s = true := by decide
  obtain ⟨k, s₁, hk, -, hrun, -, hstate, hpose, hpath⟩ :=
    (start_publishes htell hwait s hp hT).2.2.2 hidle
  obtain ⟨m, s₂, hm, -, hrun₂, -, hstate₂, hpose₂, hpath₂⟩ :=
    (start_publishes htell stop_quiet s hp hT).2.2.2 hidle
  obtain rfl : k = 0 := Nat.le_zero.1 hk
  obtain rfl : m = 0 := Nat.le_zero.1 hm
  simp only [List.take_nil, List.map_nil, List.getLastD_nil, List.filterMap_nil, List.length_nil,
    hgo, hhalt, Bool.not_false, Bool.not_true, and_true, ↓reduceIte, Bool.false_eq_true]
    at hrun hpose hpath hstate hrun₂ hpose₂ hpath₂ hstate₂
  exact ⟨htell, hwait, stop_quiet, hp, hT, hidle, ⟨s₁, hrun, hstate, hpose, hpath⟩,
    ⟨s₂, hrun₂, hstate₂, hpose₂, hpath₂⟩⟩

end Start

end Controller

end Turtle
