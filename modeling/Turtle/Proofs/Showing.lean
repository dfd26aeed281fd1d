import Turtle.Gallery.Show
import Turtle.Proofs.Publishing
import Turtle.Proofs.Unrolling

/-!
# Showing a layout tables its run

When nothing watches a controller's notices, its delivery only records them (`Controller.Silent`,
`Controller.notify_silent`): no listener stops the run, clears or fails. A start then runs the
whole trace of its program (`Controller.start_silent`): it announces `RUNNING`, resets, replays
every visit, publishing each pose and extending the path after each move, and ends `COMPLETED` at
the trace's last pose.

Showing a layout builds the program, starts it on a controller that nothing watches, and tables the
trace of the same program from the same origin. So the table and the path agree with each other
and with the run (`Gallery.present_tables_run`): one row per leaf the run executes, in order and
numbered from one, each with its leaf and the pose after it, and the path is the origin followed
by the positions of the rows that moved. A step whose integers do not fit a double fails the run
instead, and then nothing is shown (`Gallery.present_fails_on_far_move`).
-/

namespace Turtle

namespace Controller

variable {α : Type} {tell : Tell}

/-- A delivery that, in a session with no watch, ends normally, changes nothing of the
controller and sets no watch: what the controller's own delivery does when nothing watches. -/
def Silent (tell : Tell) : Prop :=
  ∀ (n : Notice) (s : Session), s.watch = {} →
    ∃ s', (tell n).run.run s = (.ok (), s') ∧ s'.ctl = s.ctl ∧ s'.watch = {}

/-- With no watch, the controller's delivery only records and counts. -/
theorem notify_silent : ∀ depth, Silent (notify depth)
  | 0 => fun _ _ hs => ⟨_, rfl, rfl, hs⟩
  | _ + 1 => by
    intro n s hs
    obtain ⟨ctl, watch, poses, notices⟩ := s
    simp only at hs
    subst hs
    cases n <;> exact ⟨_, rfl, rfl, rfl⟩

section Silent

variable (htell : Silent tell)
include htell

/-- A write of the controller followed by a silent delivery leaves the written controller. -/
theorem change_tell_silent (f : Controller → Controller) (n : Notice) {s : Session}
    (hs : s.watch = {}) :
    ∃ s', (change f >>= fun _ => tell n).run.run s = (.ok (), s') ∧ s'.ctl = f s.ctl ∧
      s'.watch = {} := by
  obtain ⟨s', hrun, hc, hw⟩ := htell n { s with ctl := f s.ctl } hs
  exact ⟨s', (run_change_bind _ _ s).trans hrun, hc, hw⟩

theorem setState_silent (st : RunState) {s : Session} (hs : s.watch = {}) :
    ∃ s', (setState tell st).run.run s = (.ok (), s') ∧ s'.ctl = { s.ctl with state := st } ∧
      s'.watch = {} :=
  change_tell_silent htell _ _ hs

theorem publishPose_silent (q : Pose) {s : Session} (hs : s.watch = {}) :
    ∃ s', (publishPose tell q).run.run s = (.ok (), s') ∧ s'.ctl = { s.ctl with pose := q } ∧
      s'.watch = {} :=
  change_tell_silent htell _ _ hs

theorem publishPath_silent (pts : Array Point) {s : Session} (hs : s.watch = {}) :
    ∃ s', (publishPath tell pts).run.run s = (.ok (), s') ∧ s'.ctl = { s.ctl with path := pts } ∧
      s'.watch = {} :=
  change_tell_silent htell _ _ hs

theorem reset_silent {s : Session} (hs : s.watch = {}) :
    let o := Pose.origin s.ctl.settings
    ∃ s', (reset tell).run.run s = (.ok (), s') ∧
      s'.ctl = { s.ctl with pose := o, path := #[o.position] } ∧ s'.watch = {} := by
  intro o
  obtain ⟨s₁, h₁, hc₁, hw₁⟩ := publishPose_silent htell o hs
  obtain ⟨s₂, h₂, hc₂, hw₂⟩ := publishPath_silent htell #[o.position] hw₁
  refine ⟨s₂, (run_bind_ok rfl).trans ((run_bind_ok h₁).trans h₂), ?_, hw₂⟩
  rw [hc₂, hc₁]

/-- The report of a step of the current run publishes its pose and, after a move, the path
extended by its position. -/
theorem report_silent (wait : Act Unit) {run : Nat} (q : Pose) (sample : Option Point)
    {s : Session} (hs : s.watch = {}) (hrun : s.ctl.runId = run) :
    ∃ s', ((probe tell wait run).report q sample).run.run s = (.ok (), s') ∧
      s'.ctl = { s.ctl with pose := q, path := extend s.ctl.path sample } ∧ s'.watch = {} := by
  obtain ⟨s₁, h₁, hc₁, hw₁⟩ := publishPose_silent htell q hs
  have hid₁ : s₁.ctl.runId = run := by rw [hc₁]; exact hrun
  have hcur : (s.ctl.runId != run) = false := by simp [hrun]
  dsimp only [probe]
  rw [run_now_bind]
  simp only [hcur, Bool.false_eq_true, ↓reduceIte]
  cases sample with
  | none => exact ⟨s₁, (run_bind_ok h₁).trans rfl, by rw [hc₁]; rfl, hw₁⟩
  | some pt =>
    obtain ⟨s₂, h₂, hc₂, hw₂⟩ := publishPath_silent htell (s.ctl.path.push pt) hw₁
    refine ⟨s₂, ?_, by rw [hc₂, hc₁]; rfl, hw₂⟩
    rw [run_bind_ok h₁]
    dsimp only
    have hcur₁ : (s.ctl.runId == run) = true := by simp [hrun]
    rw [run_now_bind]
    simp only [hc₁, hcur₁, ↓reduceIte]
    exact h₂

variable {ι : Type}

/-- **A replay that nothing stops goes through every visit.** It ends completed at the last
visit's pose, having published each visit's pose and extended the path after each move. -/
theorem replay_silent {run : Nat} :
    ∀ (T : List (Visit ι)) (pose : Pose) (steps : Nat) (s : Session), s.watch = {} →
      s.ctl.runId = run → s.ctl.stopRequested = false →
      ∃ s', (Engine.replay (probe tell (pure ()) run) T pose steps).run.run s =
          (.ok ⟨(T.map Visit.pose).getLastD pose, true, steps + T.length⟩, s') ∧
        s'.ctl = { s.ctl with
          pose := (T.map Visit.pose).getLastD s.ctl.pose
          path := trail s.ctl.path T } ∧ s'.watch = {}
  | [], _, _, s, hs, _, _ => ⟨s, rfl, rfl, hs⟩
  | v :: vs, pose, steps, s, hs, hrun, hstop => by
    obtain ⟨s₁, h₁, hc₁, hw₁⟩ := report_silent htell (pure ()) v.pose v.sample hs hrun
    have hid₁ : s₁.ctl.runId = run := by rw [hc₁]; exact hrun
    have hstop₁ : s₁.ctl.stopRequested = false := by rw [hc₁]; exact hstop
    obtain ⟨s₂, h₂, hc₂, hw₂⟩ := replay_silent vs v.pose (steps + 1) s₁ hw₁ hid₁ hstop₁
    refine ⟨s₂, ?_, ?_, hw₂⟩
    · -- neither stop check fires, the pause does nothing, and the visit is reported
      simp only [Engine.replay, probe_stopRequested_bind, hstop, Bool.false_eq_true, ↓reduceIte,
        probe_pause, pure_bind]
      rw [run_bind_ok h₁, h₂]
      simp only [List.map_cons, List.getLastD_cons, List.length_cons, Nat.add_assoc,
        Nat.add_comm 1 vs.length]
    · rw [hc₂, hc₁]
      simp only [List.map_cons, List.getLastD_cons, trail]

/-- An accepted launch numbers the run, clears its stop request, announces `RUNNING` and
resets. -/
theorem launch_silent {p : Option (Program String)} {s : Session} (hs : s.watch = {})
    (hidle : s.ctl.state ≠ .running) (hp : programFor s.ctl p ≠ []) :
    let o := Pose.origin s.ctl.settings
    ∃ s', (launch tell p).run.run s = (.ok (some (s.ctl.runId + 1, programFor s.ctl p)), s') ∧
      s'.ctl = { s.ctl with
        state := .running, pose := o, path := #[o.position], runId := s.ctl.runId + 1
        stopRequested := false } ∧ s'.watch = {} := by
  intro o
  obtain ⟨s₁, h₁, hc₁, hw₁⟩ := setState_silent htell .running
    (s := { s with ctl := { s.ctl with runId := s.ctl.runId + 1, stopRequested := false } }) hs
  obtain ⟨s₂, h₂, hc₂, hw₂⟩ := reset_silent htell hw₁
  have hset : s₁.ctl.settings = s.ctl.settings := by rw [hc₁]
  refine ⟨s₂, ?_, by rw [hc₂, hset, hc₁], hw₂⟩
  have hempty : (programFor s.ctl p).isEmpty = false := List.isEmpty_eq_false_iff.2 hp
  have hrunning : (s.ctl.state == .running) = false := beq_eq_false_iff_ne.2 hidle
  simp only [launch, run_now_bind, hempty, hrunning, Bool.or_false, Bool.false_eq_true,
    ↓reduceIte, run_change_bind]
  rw [run_bind_ok (guarded_ok ((run_bind_ok h₁).trans h₂))]
  rfl

/-- **With no watch, a start runs the whole trace.** A start with nothing to run is refused and
changes nothing. A start of a program with trace `T` from the origin, while no run is going,
returns the last pose of `T` (the origin when `T` is empty) and leaves the controller `COMPLETED`
there, its path the origin extended by the visits' moves, under a new run number. -/
theorem start_silent {p : Option (Program String)} {s : Session} (hs : s.watch = {}) :
    let o := Pose.origin s.ctl.settings
    (programFor s.ctl p = [] → (start tell (pure ()) p).run.run s = (.ok none, s)) ∧
    ∀ T : List (Visit String), s.ctl.state ≠ .running → programFor s.ctl p ≠ [] →
      (programFor s.ctl p).trace s.ctl.settings.cellSize o = .ok T →
      ∃ s', (start tell (pure ()) p).run.run s = (.ok (some ((T.map Visit.pose).getLastD o)), s') ∧
        s'.ctl = { s.ctl with
          state := .completed, pose := (T.map Visit.pose).getLastD o
          path := trail #[o.position] T, runId := s.ctl.runId + 1, stopRequested := false } ∧
        s'.watch = {} := by
  intro o
  refine ⟨fun hp => ?_, fun T hidle hp hT => ?_⟩
  · have hl : (launch tell p).run.run s = (.ok none, s) := by
      simp only [launch, run_now_bind, hp, List.isEmpty_nil, Bool.true_or, ↓reduceIte]
      rfl
    simp only [start]
    rw [run_bind_ok hl]
    rfl
  obtain ⟨s₁, h₁, hc₁, hw₁⟩ := launch_silent htell hs hidle hp
  have hid₁ : s₁.ctl.runId = s.ctl.runId + 1 := by rw [hc₁]
  have hstop₁ : s₁.ctl.stopRequested = false := by rw [hc₁]
  -- the engine runs from the origin, where the trace is taken
  have hT₁ : (programFor s.ctl p).trace s₁.ctl.settings.cellSize s₁.ctl.pose = .ok T := by
    rw [hc₁]
    exact hT
  obtain ⟨s₂, h₂, hc₂, hw₂⟩ := replay_silent htell T s₁.ctl.pose 0 s₁ hw₁ hid₁ hstop₁
  have hid₂ : s₂.ctl.runId = s.ctl.runId + 1 := by rw [hc₂, hid₁]
  obtain ⟨s₃, h₃, hc₃, hw₃⟩ := setState_silent htell .completed hw₂
  have hperform : (perform tell (pure ()) (s.ctl.runId + 1) (programFor s.ctl p)).run.run s₁ =
      (.ok ((T.map Visit.pose).getLastD s₁.ctl.pose, true), s₂) := by
    simp only [perform, pure_bind, run_now_bind, hstop₁, Bool.false_eq_true, ↓reduceIte]
    rw [Engine.execute_eq_replay _ _ hT₁, run_bind_ok h₂]
    rfl
  have hfinish : (finish tell (s.ctl.runId + 1) true).run.run s₂ = (.ok (), s₃) := by
    simp only [finish, Bool.not_true, Bool.false_eq_true, ↓reduceIte, run_now_bind, hid₂,
      beq_self_eq_true]
    exact h₃
  have hproceed : (proceed tell (pure ()) (s.ctl.runId + 1) (programFor s.ctl p)).run.run s₁ =
      (.ok ((T.map Visit.pose).getLastD s₁.ctl.pose), s₃) := by
    simp only [proceed]
    rw [run_bind_ok (guarded_ok hperform), run_bind_ok hfinish]
    rfl
  refine ⟨s₃, ?_, ?_, hw₃⟩
  · simp only [start]
    rw [run_bind_ok h₁]
    dsimp only
    rw [run_bind_ok hproceed, hc₁]
    rfl
  · rw [hc₃, hc₂, hc₁]

end Silent

end Controller

namespace Visit

variable {ι : Type} {α : Type}

/-- The step table of the visits `T`, the first numbered `n + 1`. -/
def table (T : List (Visit ι)) (n : Nat := 0) : List (FrameRow ι) :=
  (T.zipIdx n).map fun (v, i) => v.row i

@[simp] theorem length_table (T : List (Visit ι)) (n : Nat) : (table T n).length = T.length := by
  simp [table]

@[simp] theorem row_moved (v : Visit ι) (i : Nat) : (v.row i).moved = v.sample.isSome := rfl

@[simp] theorem row_pose (v : Visit ι) (i : Nat) : (v.row i).pose = v.pose := rfl

theorem getElem?_table (T : List (Visit ι)) (i : Nat) :
    (table T)[i]? = T[i]?.map (·.row i) := by
  simp only [table, List.getElem?_map, List.getElem?_zipIdx, Option.map_map, Nat.zero_add]
  rfl

/-- A column of the table that reads only the visit is the list of what it reads. -/
theorem map_table (f : FrameRow ι → α) (h : Visit ι → α) (hf : ∀ v i, f (v.row i) = h v) :
    ∀ (T : List (Visit ι)) (n : Nat), (table T n).map f = T.map h
  | [], _ => rfl
  | v :: vs, n => by simp [table, List.zipIdx_cons, hf, ← map_table f h hf vs (n + 1)]

/-- The positions of the rows that moved are those of the visits with a sample. -/
theorem moved_table :
    ∀ (T : List (Visit ι)) (n : Nat),
      ((table T n).filter (·.moved)).map (·.pose.position) =
        (T.filter (·.sample.isSome)).map (·.pose.position)
  | [], _ => rfl
  | v :: vs, n => by
    have ih := moved_table vs (n + 1)
    simp only [table] at ih
    cases h : v.sample <;> simp [table, List.zipIdx_cons, h, ih]

/-- The samples of visits that sample their position exactly when they move. -/
theorem filterMap_sample :
    ∀ T : List (Visit ι),
      (∀ v ∈ T, v.sample = if v.leaf.act.isMove then some v.pose.position else none) →
      T.filterMap sample = (T.filter (·.sample.isSome)).map (·.pose.position)
  | [], _ => rfl
  | v :: vs, hT => by
    have ih := filterMap_sample vs fun u hu => hT u (by simp [hu])
    have hv := hT v (by simp)
    cases hm : v.leaf.act.isMove <;> simp_all

end Visit

namespace Gallery

variable {ι : Type}

/-- The step table of a run whose trace is `T`. -/
theorem frame_of_trace {cell : Scale} {p : Program ι} {start : Pose} {T : List (Visit ι)}
    (hT : p.trace cell start = .ok T) : p.frame cell start = .ok (Visit.table T) := by
  simp only [Program.frame, hT]
  rfl

/-- A run visits as many leaves as the step count says. -/
theorem length_trace {cell : Scale} {p : Program ι} {start : Pose} {T : List (Visit ι)}
    (hT : p.trace cell start = .ok T) : T.length = p.stepCount := by
  rw [← List.length_map Visit.leaf, Program.trace_leaves hT, Program.allLeaves_eq_unroll]
  exact Command.length_unrollAll p

/-- **The run of a show.** On a fresh controller over a workspace, with nothing watching, a start
of the open program runs its whole trace from the origin: it ends `COMPLETED` at the trace's last
pose, its path the origin followed by the positions of the moves. An empty program is not run,
and the controller stays idle at the origin. -/
theorem run_of_trace {S : Settings} {w : Workspace} {T : List (Visit String)}
    (hT : w.program.trace S.cellSize (Pose.origin S) = .ok T) :
    let o := Pose.origin S
    ∃ s', (Controller.start Controller.tell (pure ()) none).run.run
        { ctl := Controller.create S (some w) } =
        (.ok (if w.program = [] then none else some ((T.map Visit.pose).getLastD o)), s') ∧
      s'.ctl.path = Controller.trail #[o.position] T ∧ s'.ctl.pose = (T.map Visit.pose).getLastD o ∧
      s'.ctl.state = if w.program = [] then .idle else .completed := by
  intro o
  have hs : ({ ctl := Controller.create S (some w) } : Session).watch = {} := rfl
  have hstart := Controller.start_silent (Controller.notify_silent 4) (p := none) hs
  by_cases hp : w.program = []
  · -- an empty program has no leaves, so its trace is empty
    have hT₀ : T = [] := by
      have hlen := length_trace hT
      rw [hp] at hlen
      exact List.eq_nil_of_length_eq_zero hlen
    subst hT₀
    rw [if_pos hp, if_pos hp]
    exact ⟨_, hstart.1 hp, rfl, rfl, rfl⟩
  · obtain ⟨s', hrun, hc, -⟩ := hstart.2 T (by simp [Controller.create]) hp hT
    rw [if_neg hp, if_neg hp]
    exact ⟨s', hrun, by rw [hc]; rfl, by rw [hc]; rfl, by rw [hc]⟩

/-- **Showing a layout tables its run.** For every layout that builds into a workspace whose
program has a trace from the origin, the show returns a table and a path that agree with each
other and with the run: one row per step of the program, the `i`-th numbered `i + 1` and carrying
the identifier, kind and parameter of the `i`-th leaf the run executes, the pose after it in the
trace and whether it is a move; the path is the origin followed by the positions of the rows that
moved, and it is the path the controller drew. A non-empty program leaves the controller
`COMPLETED` at the last row's pose; an empty one is not run. -/
theorem present_tables_run (name : String) (items : List Layout) (ids : IdSupply) :
    let S : Settings := { stepDelay := 0.0, startDelay := 0.0 }
    let o := Pose.origin S
    ∀ (w : Workspace) (ids' : IdSupply) (T : List (Visit String)),
      Layout.build items ids = .ok (w, ids') → w.program.trace S.cellSize o = .ok T →
      ∃ (rows : List (FrameRow String)) (path : Array Point) (s' : Session),
        present name items ids = .ok (⟨name, rows, path⟩, ids') ∧
        rows.length = w.program.stepCount ∧
        (∀ i, i < rows.length → ∃ l v, w.program.allLeaves[i]? = some l ∧ T[i]? = some v ∧
          rows[i]? = some ⟨i + 1, l.id, l.act.kind, l.act.value, v.pose, l.act.isMove⟩) ∧
        path.toList = o.position :: (rows.filter (·.moved)).map (·.pose.position) ∧
        (Controller.start Controller.tell (pure ()) none).run.run
            { ctl := Controller.create S (some w) } =
          (.ok (if w.program = [] then none else some ((rows.map (·.pose)).getLastD o)), s') ∧
        s'.ctl.path = path ∧ s'.ctl.pose = (rows.map (·.pose)).getLastD o ∧
        s'.ctl.state = if w.program = [] then .idle else .completed := by
  intro S o w ids' T hw hT
  obtain ⟨s', hrun, hpath, hpose, hstate⟩ := run_of_trace hT
  have hposes : (Visit.table T).map (·.pose) = T.map Visit.pose :=
    Visit.map_table _ _ (fun _ _ => rfl) T 0
  refine ⟨Visit.table T, s'.ctl.path, s', ?_, ?_, fun i hi => ?_, ?_, ?_, rfl, ?_, hstate⟩
  · -- the show starts that run, then tables the same trace
    have hS : Settings.configure true [] = .ok S := rfl
    have hframe : w.program.frame S.cellSize (Pose.origin S) = .ok (Visit.table T) :=
      frame_of_trace hT
    simp only [present, hw, hS, bind, Except.bind]
    simp only [hrun, hframe]
    rfl
  · rw [Visit.length_table, length_trace hT]
  · obtain ⟨v, hv⟩ : ∃ v, T[i]? = some v := ⟨_, List.getElem?_eq_getElem (by simpa using hi)⟩
    have hmoved : v.sample.isSome = v.leaf.act.isMove := by
      rw [Program.trace_sample hT v (List.mem_of_getElem? hv)]
      cases v.leaf.act.isMove <;> rfl
    refine ⟨v.leaf, v, ?_, hv, ?_⟩
    · rw [← Program.trace_leaves hT, List.getElem?_map, hv]
      rfl
    · rw [Visit.getElem?_table, hv, Option.map_some, ← hmoved]
      rfl
  · rw [hpath, Controller.trail_toList, Visit.filterMap_sample T (Program.trace_sample hT),
      Visit.moved_table T 0]
    rfl
  · rw [hposes]
    exact hrun
  · rw [hposes]
    exact hpose

/-- A show of a small staircase: it builds, its run has a trace, and it tables three steps. -/
theorem present_tables_staircase :
    let items := [Layout.leaf "FORWARD" 1, Layout.leaf "TURN_RIGHT" 90, Layout.leaf "FORWARD" 1]
    let S : Settings := { stepDelay := 0.0, startDelay := 0.0 }
    ∃ (w : Workspace) (ids' : IdSupply) (T : List (Visit String)),
      Layout.build items {} = .ok (w, ids') ∧ w.program.trace S.cellSize (Pose.origin S) = .ok T ∧
      ∃ rows path, present "stairs" items {} = .ok (⟨"stairs", rows, path⟩, ids') ∧
        rows.length = w.program.stepCount ∧
        path.toList = (Pose.origin S).position :: (rows.filter (·.moved)).map (·.pose.position) := by
  intro items S
  -- the build and the trace both succeed
  have hb : (Layout.build items {}).toBool = true := by decide +kernel
  have ht : (match Layout.build items {} with
      | .ok (w, _) => (w.program.trace S.cellSize (Pose.origin S)).toBool
      | .error _ => false) = true := by decide +kernel
  cases hw : Layout.build items {} with
  | error e => simp [hw, Except.toBool] at hb
  | ok r =>
    obtain ⟨w, ids'⟩ := r
    rw [hw] at ht
    cases hT : w.program.trace S.cellSize (Pose.origin S) with
    | error e => simp [hT, Except.toBool] at ht
    | ok T =>
      obtain ⟨rows, path, -, hp, hlen, -, hpath, -⟩ :=
        present_tables_run "stairs" items {} w ids' T hw hT
      exact ⟨w, ids', T, rfl, hT, rows, path, hp, hlen, hpath⟩

/-- **A show fails on a step past the doubles.** A move of `10 ^ 400` cells builds, but its
distance does not fit a double, so its run fails with the overflow and nothing is shown. -/
theorem present_fails_on_far_move :
    let items := [Layout.leaf "FORWARD" (Int.pow 10 400)]
    (Layout.build items {}).toBool = true ∧
      (match present "big" items {} with
        | .ok _ => none
        | .error e => some e.message) = some "int too large to convert to float" := by
  decide +kernel

end Gallery

end Turtle
