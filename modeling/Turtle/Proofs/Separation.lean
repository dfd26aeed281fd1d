import Turtle.Run.Tasks
import Turtle.Proofs.Restart

/-!
# Concurrent start calls stay separated

Here start calls run as tasks of one event loop (`World`), their turns interleaved in any order
with new start calls and with stops, clears and resets made by other tasks. The listeners never
raise, but may stop, clear or reset re-entrantly, and so may the calls of other tasks
(`Controller.Calm`). The points between two turns are where one task hands over to another.

What a calm action does is summed up by `Controller.Calmly`: the run number only grows, a stop
request once set stays set, and the state changes only with the run number, to `IDLE`, the stop
request of a running run set first. A call whose run is current stays `Controller.Owns`-ing it
through its turn: the state is `RUNNING` exactly while the run is current, and once it is not
current its stop request is set. From these, `World.Separated` holds at every point: two calls in
flight have different runs, a call in flight whose run is current holds the controller's stop
request, every other call in flight has its own set, and the state is `RUNNING` exactly while a
call in flight is current.

The main statement, `World.runs_stay_separated`, reads off the consequences: at most one call in
flight is current; every other one has its stop request set and ends at its next turn without
changing the session, so it never again moves the state, the pen or the path; the state is
`RUNNING` exactly while the current call is in flight; and a refused start returns none and
changes nothing.
-/

namespace Turtle

/-- A call in flight pauses before its run, or before a leaf. -/
theorem Stage.run?_eq_some {st : Stage} {run : Nat} :
    st.run? = some run ↔
      (∃ program, st = .starting run program) ∨ ∃ cell k, st = .stepping run cell k := by
  cases st <;> simp [Stage.run?]

namespace Controller

variable {α β : Type}

/-! ## Calm actions -/

/-- What a listener that never raises may do with a notice, and what another task may do between
two turns: read the session, keep counts of its own, ask the run to stop, clear everything or
reset, the notices of what it does going to listeners of the same kind. -/
inductive Calm : Act Unit → Prop
  | done : Calm (pure ())
  | read {k : Session → Act Unit} : (∀ s, Calm (k s)) → Calm (get >>= k)
  | count {f : Session → Session} : (∀ s, (f s).ctl = s.ctl) → Calm (modify f)
  | seq {a b : Act Unit} : Calm a → Calm b → Calm (a >>= fun _ => b)
  | stop : Calm stop
  | clear {tell : Tell} : (∀ n, Calm (tell n)) → Calm (clearAll tell)
  | reset {tell : Tell} : (∀ n, Calm (tell n)) → Calm (reset tell)

/-- The run number has not gone back from `c`'s, and a stop request set in `c` is still set. -/
structure Grows (c c' : Controller) : Prop where
  runId_le : c.runId ≤ c'.runId
  stop : c.stopRequested = true → c'.stopRequested = true

/-- What a calm action may do to the run: the run number only grows, a stop request once set stays
set, the settings stay, and the state changes only with the run number, to `IDLE`, after the stop
request of a running run was set. -/
structure Follows (c c' : Controller) : Prop extends Grows c c' where
  settings : c'.settings = c.settings
  state : c'.runId = c.runId → c'.state = c.state
  cleared : c'.runId ≠ c.runId → c'.state = .idle ∧ (c.state = .running → c'.stopRequested = true)

/-- What a calm action may do to the controller: what it may do to the run, and to the pen nothing
but put it back at the origin with the one-point path, as it does whenever it moves to a new run
number. -/
structure Calmly (c c' : Controller) : Prop extends Follows c c' where
  pen : c'.pose = c.pose ∧ c'.path = c.path ∨ Home c'
  cleared_home : c'.runId ≠ c.runId → Home c'

section Calmly

variable {c c' c'' : Controller}

theorem Grows.refl (c : Controller) : Grows c c := ⟨Nat.le_refl _, id⟩

theorem Grows.trans (h₁ : Grows c c') (h₂ : Grows c' c'') : Grows c c'' :=
  ⟨Nat.le_trans h₁.runId_le h₂.runId_le, fun h => h₂.stop (h₁.stop h)⟩

/-- A write that keeps the run number, the state and the settings, and at most sets the stop
request, follows. -/
theorem Follows.of_same (hid : c'.runId = c.runId) (hstate : c'.state = c.state)
    (hset : c'.settings = c.settings)
    (hstop : c.stopRequested = true → c'.stopRequested = true) : Follows c c' where
  runId_le := Nat.le_of_eq hid.symm
  stop := hstop
  settings := hset
  state _ := hstate
  cleared h := absurd hid h

theorem Follows.trans (h₁ : Follows c c') (h₂ : Follows c' c'') : Follows c c'' where
  toGrows := h₁.toGrows.trans h₂.toGrows
  settings := h₂.settings.trans h₁.settings
  state h := by
    have hid₁ : c'.runId = c.runId := Nat.le_antisymm (h ▸ h₂.runId_le) h₁.runId_le
    rw [h₂.state (hid₁.trans h.symm).symm, h₁.state hid₁]
  cleared h := by
    by_cases hid₁ : c'.runId = c.runId
    · -- the second action cleared, from the state the first one kept
      have hid₂ : c''.runId ≠ c'.runId := fun h' => h (h'.trans hid₁)
      obtain ⟨hidle, hstop⟩ := h₂.cleared hid₂
      exact ⟨hidle, fun hrun => hstop (by rw [h₁.state hid₁, hrun])⟩
    · -- the first action cleared; the second keeps `IDLE` or clears again
      obtain ⟨hidle, hstop⟩ := h₁.cleared hid₁
      refine ⟨?_, fun hrun => h₂.stop (hstop hrun)⟩
      by_cases hid₂ : c''.runId = c'.runId
      · rw [h₂.state hid₂, hidle]
      · exact (h₂.cleared hid₂).1

/-- A calm action does not make the state `RUNNING`. -/
theorem Follows.not_running (h : Follows c c') (hc : c.state ≠ .running) :
    c'.state ≠ .running := by
  by_cases hid : c'.runId = c.runId
  · rwa [h.state hid]
  · simp [(h.cleared hid).1]

theorem home_of_same (hset : c'.settings = c.settings) (hpose : c'.pose = c.pose)
    (hpath : c'.path = c.path) (h : Home c) : Home c' := by
  rw [Home, hset, hpose, hpath]
  exact h

/-- A write of the run's fields alone, setting at most the stop request, is calm. -/
theorem Calmly.of_same (h : Follows c c') (hid : c'.runId = c.runId) (hpose : c'.pose = c.pose)
    (hpath : c'.path = c.path) : Calmly c c' :=
  ⟨h, .inl ⟨hpose, hpath⟩, fun h' => absurd hid h'⟩

theorem Calmly.refl (c : Controller) : Calmly c c :=
  .of_same (.of_same rfl rfl rfl id) rfl rfl rfl

/-- A calm action keeps the pen at the origin with the one-point path. -/
theorem Calmly.home (h : Calmly c c') (hc : Home c) : Home c' := by
  rcases h.pen with ⟨hpose, hpath⟩ | hhome
  · exact home_of_same h.settings hpose hpath hc
  · exact hhome

theorem Calmly.trans (h₁ : Calmly c c') (h₂ : Calmly c' c'') : Calmly c c'' where
  toFollows := h₁.toFollows.trans h₂.toFollows
  pen := by
    rcases h₂.pen with ⟨hpose₂, hpath₂⟩ | hhome₂
    · rcases h₁.pen with ⟨hpose₁, hpath₁⟩ | hhome₁
      · exact .inl ⟨hpose₂.trans hpose₁, hpath₂.trans hpath₁⟩
      · exact .inr (h₂.home hhome₁)
    · exact .inr hhome₂
  cleared_home h := by
    by_cases hid₂ : c''.runId = c'.runId
    · exact h₂.home (h₁.cleared_home fun h' => h (hid₂.trans h'))
    · exact h₂.cleared_home hid₂

end Calmly

/-- An action ends normally, and calmly. -/
def Settled (a : Act Unit) : Prop :=
  ∀ s, ∃ s', a.run.run s = (.ok (), s') ∧ Calmly s.ctl s'.ctl

section Settled

theorem settled_pure : Settled (pure ()) := fun s => ⟨s, rfl, .refl _⟩

theorem Settled.bind {a b : Act Unit} (ha : Settled a) (hb : Settled b) :
    Settled (a >>= fun _ => b) := by
  intro s
  obtain ⟨s₁, h₁, hc₁⟩ := ha s
  obtain ⟨s₂, h₂, hc₂⟩ := hb s₁
  exact ⟨s₂, (run_bind_ok h₁).trans h₂, hc₁.trans hc₂⟩

theorem settled_get_bind {k : Session → Act Unit} (hk : ∀ s, Settled (k s)) :
    Settled (get >>= k) :=
  fun s => hk s s

theorem settled_stop : Settled stop := by
  intro s
  -- setting a stop request is calm
  have hset : ∀ c : Controller, Calmly c { c with stopRequested := true } :=
    fun _ => .of_same (.of_same rfl rfl rfl fun _ => rfl) rfl rfl rfl
  exact ⟨_, rfl, keeps_stop (P := fun s' => Calmly s.ctl s'.ctl) (fun _ h _ => h.trans (hset _)) s
    (.refl _)⟩

variable {tell : Tell}

/-- A reset, its deliveries settled, is calm, and leaves the pen at the origin with the one-point
path. -/
theorem reset_home (htell : ∀ n, Settled (tell n)) (s : Session) :
    ∃ s', (reset tell).run.run s = (.ok (), s') ∧ Calmly s.ctl s'.ctl ∧ Home s'.ctl := by
  let o := Pose.origin s.ctl.settings
  obtain ⟨s₂, h₂, hc₂⟩ := htell (.pose o) { s with ctl := { s.ctl with pose := o } }
  obtain ⟨s₃, h₃, hc₃⟩ := htell (.path #[o.position])
    { s₂ with ctl := { s₂.ctl with path := #[o.position] } }
  have hp : (publishPose tell o).run.run s = (.ok (), s₂) := (run_change_bind _ _ s).trans h₂
  have hq : (publishPath tell #[o.position]).run.run s₂ = (.ok (), s₃) :=
    (run_change_bind _ _ s₂).trans h₃
  -- the pose's delivery keeps the new pose, or resets it to the same origin
  have hset : s₂.ctl.settings = s.ctl.settings := hc₂.settings
  have hpose : s₂.ctl.pose = o := by
    rcases hc₂.pen with ⟨hpose, -⟩ | ⟨hpose, -⟩
    · exact hpose
    · rw [hpose, hset]
  have hhome : Home s₃.ctl := hc₃.home ⟨by rw [hpose, hset], by rw [hset]⟩
  have hw₁ : Follows s.ctl { s.ctl with pose := o } := .of_same rfl rfl rfl id
  have hw₂ : Follows s₂.ctl { s₂.ctl with path := #[o.position] } := .of_same rfl rfl rfl id
  have hfollows : Follows s.ctl s₃.ctl := ((hw₁.trans hc₂.toFollows).trans hw₂).trans hc₃.toFollows
  exact ⟨s₃, (run_bind_ok hp).trans hq, ⟨hfollows, .inr hhome, fun _ => hhome⟩, hhome⟩

theorem settled_reset (htell : ∀ n, Settled (tell n)) : Settled (reset tell) := fun s =>
  let ⟨s', h, hc, _⟩ := reset_home htell s
  ⟨s', h, hc⟩

/-- A clear is calm: it moves to a new run number and ends `IDLE` at the origin, and it sets the
stop request of a running run before. -/
theorem settled_clearAll (htell : ∀ n, Settled (tell n)) : Settled (clearAll tell) := by
  intro s
  obtain ⟨s₂, h₂, hc₂, hhome₂⟩ := reset_home htell { s with ctl := detach s.ctl }
  obtain ⟨s₃, h₃, hc₃⟩ := htell (.state .idle) { s₂ with ctl := { s₂.ctl with state := .idle } }
  have hhome : Home s₃.ctl := hc₃.home hhome₂
  refine ⟨s₃, ?_, ⟨?_, .inr hhome, fun _ => hhome⟩⟩
  · rw [clearAll, run_change_bind, run_bind_ok h₂, run_setState, h₃]
  -- the detach moved the run number on; each later write or delivery only keeps or clears again
  have hid : s.ctl.runId < s₃.ctl.runId :=
    Nat.lt_of_lt_of_le (Nat.lt_succ_self _) (Nat.le_trans hc₂.runId_le hc₃.runId_le)
  have hstop : (detach s.ctl).stopRequested = true → s₃.ctl.stopRequested = true :=
    fun h => hc₃.stop (hc₂.stop h)
  refine ⟨⟨Nat.le_of_lt hid, fun h => hstop (by simp [detach, h])⟩, hc₃.settings.trans
    hc₂.settings, fun h => absurd h (Nat.ne_of_gt hid),
    fun _ => ⟨?_, fun hr => hstop (by simp [detach, hr])⟩⟩
  by_cases hid₃ : s₃.ctl.runId = s₂.ctl.runId
  · exact hc₃.state hid₃
  · exact (hc₃.cleared hid₃).1

end Settled

/-- **A calm action ends normally, and calmly.** -/
theorem Calm.settled {a : Act Unit} (h : Calm a) : Settled a := by
  induction h with
  | done => exact settled_pure
  | read _ ih => exact settled_get_bind ih
  | count hf => exact fun s => ⟨_, rfl, by rw [hf s]; exact .refl _⟩
  | seq _ _ iha ihb => exact iha.bind ihb
  | stop => exact settled_stop
  | clear _ ih => exact settled_clearAll ih
  | reset _ ih => exact settled_reset ih

/-- What holds of the controller and survives every calm action holds after a settled one. -/
theorem Settled.keeps {a : Act Unit} (ha : Settled a) {Q : Controller → Prop}
    (hQ : ∀ {c c'}, Calmly c c' → Q c → Q c') : Keeps (fun s => Q s.ctl) a := by
  intro s hs
  obtain ⟨s', h, hc⟩ := ha s
  rw [h]
  exact hQ hc hs

/-! ## A run that owns the controller -/

/-- Run `run` owns the controller: the controller's run is not an earlier one, the state is
`RUNNING` exactly while `run` is current, and once `run` is not current its stop request is
set. -/
def Owns (run : Nat) (c : Controller) : Prop :=
  run ≤ c.runId ∧ (c.state = .running ↔ c.runId = run) ∧ (c.runId ≠ run → c.stopRequested = true)

/-- Run `run` has ended: the controller's run is not an earlier one, and the state is not
`RUNNING`. -/
def Ended (run : Nat) (c : Controller) : Prop :=
  run ≤ c.runId ∧ c.state ≠ .running

/-- Where a turn leaves the call of run `run`: in flight with its run, the run owning the
controller, or out of flight with the run ended. -/
def Leaves (run : Nat) (st : Stage) (c : Controller) : Prop :=
  st.run? = some run ∧ Owns run c ∨ st.run? = none ∧ Ended run c

/-- Run `run` has released the controller: while the run is not current, the controller is `IDLE`
at its origin with the one-point path, as the clear that took it from the run left it. -/
def Released (run : Nat) (c : Controller) : Prop :=
  c.runId ≠ run → c.state = .idle ∧ Home c

section Owns

variable {run : Nat} {c c' : Controller}

theorem owns_of_current (hid : c.runId = run) (hrun : c.state = .running) : Owns run c :=
  ⟨Nat.le_of_eq hid.symm, ⟨fun _ => hid, fun _ => hrun⟩, fun h => absurd hid h⟩

theorem released_of_current (hid : c.runId = run) : Released run c := fun h => absurd hid h

/-- A calm action keeps a run released: once the run is not current, only a clear or a reset
moves the pen, and both leave it at the origin. -/
theorem Released.calmly (h : Released run c) (hc : Calmly c c') : Released run c' := by
  intro hne
  by_cases hid : c'.runId = c.runId
  · obtain ⟨hidle, hhome⟩ := h (hid ▸ hne)
    exact ⟨(hc.state hid).trans hidle, hc.home hhome⟩
  · exact ⟨(hc.cleared hid).1, hc.cleared_home hid⟩

theorem Leaves.le {st : Stage} (h : Leaves run st c) : run ≤ c.runId := by
  rcases h with ⟨-, h⟩ | ⟨-, h⟩
  · exact h.1
  · exact h.1

/-- A calm action keeps a run owning the controller: a clear moves to a later run number and to
`IDLE`, and sets the stop request of the run it took the controller from. -/
theorem Owns.calmly (h : Owns run c) (hc : Calmly c c') : Owns run c' := by
  obtain ⟨hle, hrun, hstop⟩ := h
  have hle' : run ≤ c'.runId := Nat.le_trans hle hc.runId_le
  by_cases hid : c'.runId = c.runId
  · refine ⟨hle', ?_, fun hne => hc.stop (hstop (hid ▸ hne))⟩
    rw [hc.state hid, hid]
    exact hrun
  · obtain ⟨hidle, hcleared⟩ := hc.cleared hid
    have hne : c'.runId ≠ run := by
      have := hc.runId_le
      omega
    refine ⟨hle', by simp [hidle, hne], fun _ => ?_⟩
    by_cases hcur : c.runId = run
    · exact hcleared (hrun.2 hcur)
    · exact hc.stop (hstop hcur)

/-- A run owning the controller from the moment it announces `RUNNING`. -/
theorem owns_announced (hid : c.runId = run) : Owns run { c with state := .running } :=
  ⟨Nat.le_of_eq hid.symm, by simp [hid], fun h => absurd hid h⟩

variable {tell : Tell}

/-- The steps of a run keep it owning the controller, the deliveries being settled. -/
theorem owns_steps_keep (htell : ∀ n, Settled (tell n)) (run : Nat) :
    StepsKeep (fun s => Owns run s.ctl) tell (pure ()) where
  tell n := (htell n).keeps fun hc h => h.calmly hc
  wait := keeps_pure ()
  pose _ _ h := h
  push _ _ _ _ h := h

theorem grows_steps_keep (htell : ∀ n, Settled (tell n)) (c₀ : Controller) :
    StepsKeep (fun s => Grows c₀ s.ctl) tell (pure ()) where
  tell n := (htell n).keeps fun hc h => h.trans hc.toGrows
  wait := keeps_pure ()
  pose _ _ h := ⟨h.1, h.2⟩
  push _ _ _ _ h := ⟨h.1, h.2⟩

/-- An announced state other than `RUNNING` stays so through settled deliveries, and the run
number does not go back. -/
theorem announce_ended (htell : ∀ n, Settled (tell n)) {st : RunState} (hst : st ≠ .running)
    {s : Session} (hle : run ≤ s.ctl.runId) : Ended run ((setState tell st).run.run s).2.ctl := by
  rw [run_setState]
  obtain ⟨s', h, hc⟩ := htell (.state st) { s with ctl := { s.ctl with state := st } }
  rw [h]
  exact ⟨Nat.le_trans hle hc.runId_le, hc.not_running hst⟩

/-- The end of a run that owns the controller leaves it ended: a current run announces its end,
and under a later run the state is already not `RUNNING`. -/
theorem owns_finish (htell : ∀ n, Settled (tell n)) {s s' : Session} {x : Except Fault Unit}
    (hs : Owns run s.ctl) (completed : Bool) (h : (finish tell run completed).run.run s = (x, s')) :
    Ended run s'.ctl := by
  have hend : ∀ st, st ≠ .running → ∀ s₁ : Session, Owns run s₁.ctl →
      Ended run ((if s₁.ctl.runId = run then setState tell st else pure ()).run.run s₁).2.ctl := by
    intro st hst s₁ h₁
    by_cases hid : s₁.ctl.runId = run
    · rw [if_pos hid]
      exact announce_ended htell hst h₁.1
    · rw [if_neg hid]
      exact ⟨h₁.1, fun hr => hid (h₁.2.1.1 hr)⟩
  cases completed with
  | false =>
    -- the stop request is set first, which keeps the run owning the controller
    rw [run_finish_false, run_now_bind] at h
    have h' := hend .stopped (by decide) { s with ctl := { s.ctl with stopRequested := true } }
      ⟨hs.1, hs.2.1, fun _ => rfl⟩
    simp only [beq_iff_eq] at h
    rwa [h] at h'
  | true =>
    rw [run_finish_true] at h
    have h' := hend .completed (by decide) s hs
    by_cases hid : s.ctl.runId = run
    · rw [if_pos hid] at h h'
      rwa [h] at h'
    · rw [if_neg hid] at h h'
      cases h
      exact h'

end Owns

/-! ## A turn of a call -/

section Turn

variable {P : Session → Prop} {tell : Tell}

theorem keeps_task_stopRequested (token : Option Bool) : Keeps P (Task.stopRequested token) := by
  cases token with
  | none => exact keeps_now_bind fun _ _ => keeps_pure _
  | some b => exact keeps_pure b

theorem keeps_advance (run : Nat) (token : Option Bool) (a : Agenda String) (pose : Pose)
    (steps : Nat) : Keeps P (Engine.advance (Task.probe tell run token) a pose steps) := by
  unfold Engine.advance
  split
  · exact keeps_pure _
  · exact (keeps_task_stopRequested token).bind fun _ => keeps_ite (keeps_pure _) (keeps_pure _)

theorem keeps_resume {run : Nat} {token : Option Bool}
    (hreport : ∀ q sample, Keeps P ((Task.probe tell run token).report q sample)) (cell : Scale)
    (k : Pending String) : Keeps P (Engine.resume (Task.probe tell run token) cell k) := by
  refine (keeps_task_stopRequested token).bind fun _ => keeps_ite (keeps_pure _) ?_
  refine (keeps_liftExcept _).bind fun x => ?_
  obtain ⟨q, sample⟩ := x
  exact (hreport q sample).bind fun _ => keeps_advance run token _ _ _

theorem keeps_task_finish (hset : ∀ st, Keeps P (setState tell st))
    (hstop : Stable P fun c => { c with stopRequested := true }) (run : Nat) (token : Option Bool)
    (completed : Bool) : Keeps P (Task.finish tell run token completed) := by
  have hend : Keeps P (now >>= fun c => if c.runId == run then
      setState tell (if completed then .completed else .stopped) else pure ()) :=
    keeps_now_bind fun _ _ => keeps_ite (hset _) (keeps_pure ())
  cases token with
  | none => exact keeps_ite ((keeps_change hstop).bind fun _ => hend) hend
  | some _ => exact hend

theorem keeps_guarded_settle {run : Nat} {token : Option Bool}
    (hfinish : ∀ completed, Keeps P (Task.finish tell run token completed)) (cell : Scale)
    {body : Act (Outcome ⊕ Pending String)} (hbody : Keeps P body) :
    Keeps P (Task.guarded tell run token body >>= Task.settle tell run token cell) := by
  refine (keeps_tryCatch hbody fun e => (hfinish false).bind fun _ => keeps_throw e).bind
    fun x => ?_
  cases x with
  | inl out => exact (hfinish out.completed).bind fun _ => keeps_pure _
  | inr k => exact keeps_pure _

/-- A turn of a call in flight keeps what the reports of its steps and the end of its run keep. -/
theorem keeps_turn {t : Task} {run : Nat} (hrun : t.stage.run? = some run)
    (hreport : ∀ q sample, Keeps P ((Task.probe tell run t.token).report q sample))
    (hfinish : ∀ completed, Keeps P (Task.finish tell run t.token completed)) :
    Keeps P (t.turn tell) := by
  obtain ⟨stage, token⟩ := t
  dsimp only at hrun
  obtain ⟨program, rfl⟩ | ⟨cell, k, rfl⟩ := Stage.run?_eq_some.1 hrun
  · exact keeps_now_bind fun _ _ => keeps_guarded_settle hfinish _ <|
      (keeps_task_stopRequested token).bind fun _ =>
        keeps_ite (keeps_pure _) (keeps_advance run token _ _ _)
  · exact keeps_guarded_settle hfinish cell (keeps_resume hreport cell k)

/-! ### A detached run stays released -/

/-- A write made only if the run is still current keeps the run released. -/
theorem keeps_if_current {run : Nat} {a : Controller → Act Unit}
    (ha : ∀ s : Session, s.ctl.runId = run → Released run ((a s.ctl).run.run s).2.ctl) :
    Keeps (fun s => Released run s.ctl)
      (now >>= fun c => if c.runId == run then a c else pure ()) := by
  intro s hs
  rw [run_now_bind]
  by_cases hid : s.ctl.runId = run
  · rw [if_pos (by simpa using hid)]
    exact ha s hid
  · rw [if_neg (by simpa using hid)]
    exact hs

section Released

variable (htell : ∀ n, Settled (tell n)) {run : Nat}
include htell

theorem keeps_tell_released (n : Notice) : Keeps (fun s => Released run s.ctl) (tell n) :=
  (htell n).keeps fun hc h => h.calmly hc

/-- A write made while the run is current, and delivered, keeps the run released. -/
theorem released_write_current {f : Controller → Controller} (hf : ∀ c, (f c).runId = c.runId)
    (n : Notice) {s : Session} (hid : s.ctl.runId = run) :
    Released run ((change f >>= fun _ => tell n).run.run s).2.ctl := by
  rw [run_change_bind]
  exact keeps_tell_released htell n _ (released_of_current ((hf s.ctl).trans hid))

/-- A step's report moves the pen only while the run is current, so it keeps the run released: the
path is extended only if the pose's listeners left the run current. -/
theorem keeps_report_released (wait : Act Unit) (q : Pose) (sample : Option Point) :
    Keeps (fun s => Released run s.ctl) ((probe tell wait run).report q sample) := by
  intro s hs
  dsimp only [probe]
  rw [run_now_bind]
  by_cases hid : s.ctl.runId = run
  · rw [if_neg (by simpa using hid)]
    rcases hp : (publishPose tell q).run.run s with ⟨r, s₁⟩
    have h₁ : Released run s₁.ctl := by
      have h := released_write_current htell (f := fun c => { c with pose := q }) (fun _ => rfl)
        (.pose q) hid
      rwa [show (change _ >>= fun _ => tell (.pose q)).run.run s =
        (publishPose tell q).run.run s from rfl, hp] at h
    cases r with
    | error e =>
      rw [run_bind_error hp]
      exact h₁
    | ok u =>
      rw [run_bind_ok hp]
      cases sample with
      | none => exact h₁
      | some pt =>
        exact keeps_if_current (fun s₂ hid₂ => released_write_current htell
          (f := fun c => { c with path := s₂.ctl.path.push pt }) (fun _ => rfl) _ hid₂) s₁ h₁
  · rw [if_pos (by simpa using hid)]
    exact hs

/-- The end of a run announces a state only while the run is current, so it keeps the run
released. -/
theorem keeps_finish_released (token : Option Bool) (completed : Bool) :
    Keeps (fun s => Released run s.ctl) (Task.finish tell run token completed) := by
  have hend : Keeps (fun s => Released run s.ctl) (now >>= fun c => if c.runId == run then
      setState tell (if completed then .completed else .stopped) else pure ()) :=
    keeps_if_current fun _ hid => released_write_current htell
      (f := fun c => { c with state := if completed then .completed else .stopped })
      (fun _ => rfl) _ hid
  cases token with
  | none => exact keeps_ite ((keeps_change fun _ h => h).bind fun _ => hend) hend
  | some _ => exact hend

end Released

/-! ### The current call -/

variable {run : Nat}

/-- The engine of the current call, guarded, and the end of its run if the engine stopped: the
call stays in flight owning the controller, or its run ended. -/
theorem guarded_settle_leaves (htell : ∀ n, Settled (tell n)) {cell : Scale}
    {body : Act (Outcome ⊕ Pending String)} (hbody : Keeps (fun s => Owns run s.ctl) body)
    {s s' : Session} {res : Except Fault Stage} (hs : Owns run s.ctl)
    (h : (Task.guarded tell run none body >>= Task.settle tell run none cell).run.run s =
      (res, s')) :
    Leaves run (Stage.ofResult res) s'.ctl := by
  rcases run_bind_cases h with ⟨x, s₁, hg, hset⟩ | ⟨e, hg, rfl⟩
  · rcases guarded_cases hg with ⟨_, hx, hb⟩ | ⟨⟨_, he⟩, -⟩
    · cases hx
      have h₁ : Owns run s₁.ctl := hbody.of_run hb hs
      cases x with
      | inl out =>
        -- the run ended: its end, then the call returns
        rcases run_bind_cases hset with ⟨_, s₂, hfin, hpure⟩ | ⟨e, hfin, rfl⟩
        · cases hpure
          exact .inr ⟨rfl, owns_finish htell h₁ _ hfin⟩
        · exact .inr ⟨rfl, owns_finish htell h₁ _ hfin⟩
      | inr k =>
        cases hset
        exact .inl ⟨rfl, h₁⟩
    · cases he
  · -- the engine failed: the run was ended as not completed, and the call raised
    rcases guarded_cases hg with ⟨_, he, -⟩ | ⟨-, s₀, e', x, hb, hfin⟩
    · cases he
    · exact .inr ⟨rfl, owns_finish htell (hbody.of_run hb hs) _ hfin⟩

/-- **The turn of the current call.** A call in flight whose run is current and `RUNNING`,
holding the controller's stop request, ends its turn in flight with its run still owning the
controller, or out of flight with its run ended; the run number has not gone back, a set stop
request is still set, and if the run is no longer current the controller is `IDLE` at its
origin. -/
theorem turn_current (htell : ∀ n, Settled (tell n)) {t : Task} (hrun : t.stage.run? = some run)
    (htok : t.token = none) {s s' : Session} {res : Except Fault Stage} (hid : s.ctl.runId = run)
    (hrunning : s.ctl.state = .running) (h : (t.turn tell).run.run s = (res, s')) :
    Leaves run (Stage.ofResult res) s'.ctl ∧ Grows s.ctl s'.ctl ∧ Released run s'.ctl := by
  have hgrows := grows_steps_keep htell s.ctl
  refine ⟨?_, (keeps_turn hrun (keeps_report hgrows run)
    (keeps_task_finish (fun _ => keeps_setState hgrows.tell fun _ h => ⟨h.1, h.2⟩)
      (fun _ h => ⟨h.1, fun _ => rfl⟩) run _)).of_run h (.refl _),
    (keeps_turn hrun (keeps_report_released htell (pure ()))
      (keeps_finish_released htell _)).of_run h (released_of_current hid)⟩
  have hs : Owns run s.ctl := owns_of_current hid hrunning
  obtain ⟨stage, token⟩ := t
  dsimp only at htok hrun
  subst htok
  obtain ⟨program, rfl⟩ | ⟨cell, k, rfl⟩ := Stage.run?_eq_some.1 hrun
  · exact guarded_settle_leaves htell ((keeps_task_stopRequested none).bind fun _ =>
      keeps_ite (keeps_pure _) (keeps_advance run none _ _ _)) hs h
  · exact guarded_settle_leaves htell
      (keeps_resume (keeps_report (owns_steps_keep htell run) run) cell k) hs h

/-! ### A detached call -/

variable {token : Option Bool} {s : Session}

theorem run_task_stopRequested (token : Option Bool) (s : Session) :
    (Task.stopRequested token).run.run s = (.ok (token.getD s.ctl.stopRequested), s) := by
  cases token <;> rfl

/-- A stop check that finds the stop request set returns at once. -/
theorem run_stop_check (hstop : token.getD s.ctl.stopRequested = true) (x : α) (k : Act α) :
    (Task.stopRequested token >>= fun b => if b = true then pure x else k).run.run s =
      (.ok x, s) := by
  rw [run_bind_ok (run_task_stopRequested token s), if_pos hstop]
  rfl

/-- The end of a run that is not current, its stop request set, changes nothing. -/
theorem finish_detached (hid : s.ctl.runId ≠ run) (hstop : token.getD s.ctl.stopRequested = true) :
    (Task.finish tell run token false).run.run s = (.ok (), s) := by
  have hend : (now >>= fun c => if c.runId == run then setState tell .stopped else pure ()).run.run
      s = (.ok (), s) := by
    rw [run_now_bind, if_neg (by simpa using hid)]
    rfl
  cases token with
  | none =>
    have hs : { s with ctl := { s.ctl with stopRequested := true } } = s := by
      rw [← show s.ctl.stopRequested = true from hstop]
    show (finish tell run false).run.run s = _
    rw [run_finish_false, hs]
    exact hend
  | some b => exact hend

/-- **The turn of a detached call.** A call in flight whose run is not current and whose stop
request is set sees the request at once, ends its run without changing the session, and returns the
pose it paused at, before its next leaf. -/
theorem turn_detached {t : Task} (hrun : t.stage.run? = some run) (hid : s.ctl.runId ≠ run)
    (hstop : t.token.getD s.ctl.stopRequested = true) :
    ∃ pose, (t.turn tell).run.run s = (.ok (.returned (some pose)), s) ∧
      ∀ cell k, t.stage = .stepping run cell k → pose = k.pose := by
  obtain ⟨stage, token⟩ := t
  dsimp only at hrun hstop
  -- before the run or before a leaf, the engine first checks the stop request, finds it set, and
  -- the run ends where it paused
  have hstopped : ∀ (cell : Scale) (pose : Pose) (steps : Nat) (k : Act (Outcome ⊕ Pending String)),
      (Task.guarded tell run token (Task.stopRequested token >>= fun b =>
        if b = true then pure (.inl ⟨pose, false, steps⟩) else k) >>=
          Task.settle tell run token cell).run.run s = (.ok (.returned (some pose)), s) :=
    fun _ _ _ _ => (run_bind_ok (run_tryCatch_ok (run_stop_check hstop _ _))).trans
      ((run_bind_ok (finish_detached hid hstop)).trans rfl)
  obtain ⟨program, rfl⟩ | ⟨cell, k, rfl⟩ := Stage.run?_eq_some.1 hrun
  · exact ⟨_, hstopped _ _ _ _, fun _ _ h => by cases h⟩
  · exact ⟨_, hstopped _ _ _ _, fun _ _ h => by cases h; rfl⟩

/-! ### A new call -/

variable {p : Option (Program String)}

/-- **A refused start** returns none and changes nothing. -/
theorem begin_refused (h : s.ctl.accepts p = false) :
    (Task.begin tell p).run.run s = (.ok (.returned none), s) := by
  rw [Controller.accepts, Bool.not_eq_false'] at h
  have hl : (launch tell p).run.run s = (.ok none, s) := by
    rw [launch, run_now_bind]
    dsimp only
    rw [if_pos h]
    rfl
  exact (run_bind_ok hl).trans rfl

/-- **An accepted start** takes the next run number, and leaves its call in flight with that run,
owning the controller, or out of flight with the run ended; if the run is no longer current, the
controller is `IDLE` at its origin. -/
theorem begin_accepted (htell : ∀ n, Settled (tell n)) (h : s.ctl.accepts p = true)
    {res : Except Fault Stage} {s' : Session} (hr : (Task.begin tell p).run.run s = (res, s')) :
    Leaves (s.ctl.runId + 1) (Stage.ofResult res) s'.ctl ∧ Released (s.ctl.runId + 1) s'.ctl := by
  rw [Controller.accepts, Bool.not_eq_true'] at h
  let run := s.ctl.runId + 1
  let s₀ : Session := { s with ctl := { s.ctl with runId := run, stopRequested := false } }
  have hl : (launch tell p).run.run s = (guarded tell run (setState tell .running >>= fun _ =>
      reset tell) >>= fun _ => pure (some (run, programFor s.ctl p))).run.run s₀ := by
    rw [launch, run_now_bind]
    dsimp only
    rw [if_neg (by simp [h]), run_change_bind]
  -- the announcement makes the run own the controller, and the reset keeps it so
  have hbody : ∀ {x : Except Fault Unit} {s₁ : Session},
      (setState tell .running >>= fun _ => reset tell).run.run s₀ = (x, s₁) →
        Owns run s₁.ctl ∧ Released run s₁.ctl := by
    intro x s₁ hb
    have howns := owns_steps_keep htell run
    have heq : (setState tell .running >>= fun _ => reset tell).run.run s₀ =
        (tell (.state .running) >>= fun _ => reset tell).run.run
          { s₀ with ctl := { s₀.ctl with state := .running } } := by
      simp only [setState, bind_assoc, run_change_bind]
    rw [heq] at hb
    exact ⟨((howns.tell _).bind fun _ => keeps_reset howns.tell (fun _ _ => howns.pose _)
      fun _ _ _ h => h).of_run hb (owns_announced rfl),
      ((keeps_tell_released htell _).bind fun _ => (settled_reset htell).keeps fun hc h =>
        h.calmly hc).of_run hb (released_of_current rfl)⟩
  rcases run_bind_cases hr with ⟨o, s₁, hlaunch, hk⟩ | ⟨e, hlaunch, rfl⟩
  · rw [hl] at hlaunch
    rcases run_bind_cases hlaunch with ⟨_, s₂, hg, hpure⟩ | ⟨e, -, he⟩
    · cases hpure
      cases hk
      rcases guarded_cases hg with ⟨_, -, hb⟩ | ⟨⟨_, he⟩, -⟩
      · exact ⟨.inl ⟨rfl, (hbody hb).1⟩, (hbody hb).2⟩
      · cases he
    · cases he
  · -- the announcement or the reset failed: the run was ended as not completed
    rw [hl] at hlaunch
    rcases run_bind_cases hlaunch with ⟨_, s₂, hg, hpure⟩ | ⟨e', hg, -⟩
    · cases hpure
    · rcases guarded_cases hg with ⟨_, he', -⟩ | ⟨-, s₃, _, x, hb, hfin⟩
      · cases he'
      · exact ⟨.inr ⟨rfl, owns_finish htell (hbody hb).1 false hfin⟩,
          (keeps_finish_released htell none false).of_run hfin (hbody hb).2⟩

end Turn

/-- Where a turn leaves a call, the state is `RUNNING` exactly while the call is current. -/
theorem Leaves.running {run : Nat} {st : Stage} {c : Controller} (h : Leaves run st c) :
    c.state = .running ↔ st.run? = some c.runId := by
  rcases h with ⟨hst, howns⟩ | ⟨hst, -, hidle⟩
  · rw [hst, howns.2.1, Option.some.injEq, eq_comm]
  · simp [hst, hidle]

end Controller

/-! ## Calls in flight are separated -/

namespace World

open Controller

/-- How a call in flight with run `run` and stop request `token` stands to the controller `c`:
its run is not a later one; while its run is current it holds the controller's stop request, and
otherwise its stop request is set. -/
def Fits (c : Controller) (run : Nat) (token : Option Bool) : Prop :=
  run ≤ c.runId ∧ (run = c.runId → token = none) ∧
    (run ≠ c.runId → token.getD c.stopRequested = true)

/-- The calls in flight are separated: no two have the same run, each fits the controller, and the
state is `RUNNING` exactly while one of them is current. -/
structure Separated (w : World) : Prop where
  apart : ∀ {i j : Nat} {t u : Task} {run : Nat}, w.tasks[i]? = some t → w.tasks[j]? = some u →
    t.stage.run? = some run → u.stage.run? = some run → i = j
  fits : ∀ {i : Nat} {t : Task} {run : Nat}, w.tasks[i]? = some t → t.stage.run? = some run →
    Fits w.session.ctl run t.token
  running : w.session.ctl.state = .running ↔
    ∃ (i : Nat) (t : Task), w.tasks[i]? = some t ∧ t.stage.run? = some w.session.ctl.runId

section Fits

variable {c c' : Controller} {run : Nat} {token : Option Bool}

/-- A calm action keeps a call fitting the controller: a current call's run was running, so a
clear set the stop request the call holds. -/
theorem Fits.calmly (h : Fits c run token) (hcur : run = c.runId → c.state = .running)
    (hc : Calmly c c') : Fits c' run token := by
  obtain ⟨hle, hnone, hset⟩ := h
  by_cases hid : c'.runId = c.runId
  · refine ⟨hid ▸ hle, fun h => hnone (h.trans hid), fun hne => ?_⟩
    have hset' := hset (hid ▸ hne)
    cases token with
    | none => exact hc.stop hset'
    | some b => exact hset'
  · have hlt : c.runId < c'.runId := Nat.lt_of_le_of_ne hc.runId_le (Ne.symm hid)
    refine ⟨by omega, fun h => by omega, fun _ => ?_⟩
    by_cases hrun : run = c.runId
    · rw [hnone hrun]
      exact (hc.cleared hid).2 (hcur hrun)
    · cases token with
      | none => exact hc.stop (hset hrun)
      | some b => exact hset hrun

/-- A call that is not current keeps fitting, and stays not current, while the run number does
not go back and a set stop request stays set. -/
theorem Fits.grows (h : Fits c run token) (hne : run ≠ c.runId) (hg : Grows c c') :
    Fits c' run token ∧ run ≠ c'.runId := by
  obtain ⟨hle, -, hset⟩ := h
  have hlt : run < c'.runId := Nat.lt_of_lt_of_le (Nat.lt_of_le_of_ne hle hne) hg.runId_le
  refine ⟨⟨Nat.le_of_lt hlt, fun h => absurd h (Nat.ne_of_lt hlt), fun _ => ?_⟩, Nat.ne_of_lt hlt⟩
  cases token with
  | none => exact hg.stop (hset hne)
  | some b => exact hset hne

/-- A call that is not current, handed over to a later run, keeps its own stop request set. -/
theorem Fits.handOver (h : Fits c run token) (hne : run ≠ c.runId) (hlt : c.runId < c'.runId) :
    Fits c' run (some (token.getD c.stopRequested)) ∧ run ≠ c'.runId := by
  have hlt' : run < c'.runId := Nat.lt_of_le_of_lt h.1 hlt
  exact ⟨⟨Nat.le_of_lt hlt', fun h => absurd h (Nat.ne_of_lt hlt'), fun _ => h.2.2 hne⟩,
    Nat.ne_of_lt hlt'⟩

/-- The call of a run that a turn left in flight fits the controller, holding its stop request. -/
theorem fits_of_leaves {st : Stage} {r : Nat} (h : Leaves run st c) (hr : st.run? = some r) :
    r = run ∧ Fits c run none := by
  rcases h with ⟨hst, howns⟩ | ⟨hst, -⟩
  · rw [hst, Option.some.injEq] at hr
    exact ⟨hr.symm, howns.1, fun _ => rfl, howns.2.2 ∘ Ne.symm⟩
  · simp [hst] at hr

end Fits

section Tasks

variable {l : List Task} {i j : Nat} {t u : Task}

/-- The calls after a turn of the `i`-th: it is `t'`, and every other is as it was, up to `g`. -/
theorem getElem?_turned {g : Task → Task} {t' : Task} (hi : i < l.length)
    (h : ((l.map g).set i t')[j]? = some u) :
    j = i ∧ u = t' ∨ j ≠ i ∧ ∃ u₀, l[j]? = some u₀ ∧ u = g u₀ := by
  rw [List.getElem?_set] at h
  by_cases hij : i = j
  · subst hij
    simp only [↓reduceIte, List.length_map, hi, Option.some.injEq] at h
    exact .inl ⟨rfl, h.symm⟩
  · rw [if_neg hij, List.getElem?_map, Option.map_eq_some_iff] at h
    obtain ⟨u₀, hu₀, rfl⟩ := h
    exact .inr ⟨Ne.symm hij, u₀, hu₀, rfl⟩

theorem getElem?_set_cases {t' : Task} (hi : i < l.length) (h : (l.set i t')[j]? = some u) :
    j = i ∧ u = t' ∨ j ≠ i ∧ l[j]? = some u := by
  rw [← List.map_id l] at h
  rcases getElem?_turned hi h with h | ⟨hj, u₀, hu₀, rfl⟩
  · exact .inl h
  · exact .inr ⟨hj, hu₀⟩

theorem length_of_getElem? (h : l[i]? = some t) : i < l.length :=
  (List.getElem?_eq_some_iff.1 h).1

end Tasks

variable {tell : Tell} {w : World}

/-- A turn of the `i`-th call that leaves it as `t'` and the controller as `s'.ctl` keeps the calls
separated when every other call in flight, up to `g`, fits the controller without being current,
the run of `t'` is no other call's, and the state is `RUNNING` exactly while `t'` is current. -/
theorem Separated.update (hw : w.Separated) {i : Nat} (hi : i < w.tasks.length)
    {g : Task → Task} (hg : ∀ u, (g u).stage = u.stage) {s' : Session} {t' : Task}
    (hothers : ∀ {j u run}, j ≠ i → w.tasks[j]? = some u → u.stage.run? = some run →
      Fits s'.ctl run (g u).token ∧ run ≠ s'.ctl.runId)
    (hown : ∀ {run}, t'.stage.run? = some run → Fits s'.ctl run t'.token ∧
      ∀ {j u}, j ≠ i → w.tasks[j]? = some u → u.stage.run? ≠ some run)
    (hstate : s'.ctl.state = .running ↔ t'.stage.run? = some s'.ctl.runId) :
    Separated ⟨s', (w.tasks.map g).set i t'⟩ where
  apart {j k u₁ u₂ run} h₁ h₂ hr₁ hr₂ := by
    rcases getElem?_turned hi h₁ with ⟨rfl, rfl⟩ | ⟨hj, v₁, hv₁, rfl⟩ <;>
      rcases getElem?_turned hi h₂ with ⟨rfl, rfl⟩ | ⟨hk, v₂, hv₂, rfl⟩
    · rfl
    · exact absurd (by rwa [hg] at hr₂) ((hown hr₁).2 hk hv₂)
    · exact absurd (by rwa [hg] at hr₁) ((hown hr₂).2 hj hv₁)
    · exact hw.apart hv₁ hv₂ (by rwa [hg] at hr₁) (by rwa [hg] at hr₂)
  fits {j u run} h hr := by
    rcases getElem?_turned hi h with ⟨rfl, rfl⟩ | ⟨hj, v, hv, rfl⟩
    · exact (hown hr).1
    · exact (hothers hj hv (by rwa [hg] at hr)).1
  running := by
    refine hstate.trans ⟨fun h => ⟨i, t', List.getElem?_set_self (by simpa using hi), h⟩, ?_⟩
    rintro ⟨j, u, h, hr⟩
    rcases getElem?_turned hi h with ⟨rfl, rfl⟩ | ⟨hj, v, hv, rfl⟩
    · exact hr
    · exact absurd rfl (hothers hj hv (by rwa [hg] at hr)).2

/-- A change of the calls alone keeps them separated when every call in flight afterwards was in
flight before at the same place, and a current call stays where it was. -/
theorem Separated.of_tasks (hw : w.Separated) {l : List Task}
    (hold : ∀ {j : Nat} {u : Task} {run : Nat}, l[j]? = some u → u.stage.run? = some run →
      w.tasks[j]? = some u)
    (hcur : ∀ {j : Nat} {u : Task}, w.tasks[j]? = some u →
      u.stage.run? = some w.session.ctl.runId → l[j]? = some u) :
    Separated { w with tasks := l } where
  apart h₁ h₂ hr₁ hr₂ := hw.apart (hold h₁ hr₁) (hold h₂ hr₂) hr₁ hr₂
  fits h hr := hw.fits (hold h hr) hr
  running := hw.running.trans
    ⟨fun ⟨j, u, h, hr⟩ => ⟨j, u, hcur h hr, hr⟩, fun ⟨j, u, h, hr⟩ => ⟨j, u, hold h hr, hr⟩⟩

/-- A turn that ends a call that is not current, and changes nothing else, keeps the calls
separated. -/
theorem Separated.retire (hw : w.Separated) {i : Nat} {t : Task} (ht : w.tasks[i]? = some t)
    (hcur : t.stage.run? ≠ some w.session.ctl.runId) {st : Stage} (hst : st.run? = none) :
    Separated { w with tasks := w.tasks.set i { t with stage := st } } := by
  have hi := length_of_getElem? ht
  refine hw.of_tasks (fun h hr => ?_) (fun {j u} h hr => ?_)
  · -- the `i`-th call is no longer in flight; every other is as it was
    rcases getElem?_set_cases hi h with ⟨-, rfl⟩ | ⟨-, h⟩
    · simp [hst] at hr
    · exact h
  · -- the current call is not the `i`-th
    have hj : j ≠ i := by
      rintro rfl
      rw [ht, Option.some.injEq] at h
      exact hcur (h ▸ hr)
    rwa [List.getElem?_set_ne (Ne.symm hj)]

/-- A call made by another task, settled, keeps the calls separated. -/
theorem Separated.call (hw : w.Separated) {a : Act Unit} (ha : Settled a) :
    (w.call a).Separated := by
  obtain ⟨s', h, hc⟩ := ha w.session
  have hs : w.call a = { w with session := s' } := by simp only [World.call, h]
  rw [hs]
  refine ⟨hw.apart, fun hi hr => (hw.fits hi hr).calmly
    (fun h => hw.running.2 ⟨_, _, hi, h ▸ hr⟩) hc, ?_⟩
  by_cases hid : s'.ctl.runId = w.session.ctl.runId
  · rw [hc.state hid, hid]
    exact hw.running
  · -- a clear: `IDLE`, and no call in flight has the new run number
    refine ⟨fun h => absurd h (by simp [(hc.cleared hid).1]), ?_⟩
    rintro ⟨i, t, hi, hr⟩
    have hle : s'.ctl.runId ≤ w.session.ctl.runId := (hw.fits hi hr).1
    have := hc.runId_le
    omega

/-- A new call is not in flight, so it keeps the calls separated. -/
theorem Separated.spawn (hw : w.Separated) (p : Option (Program String)) :
    Separated { w with tasks := w.tasks ++ [{ stage := .created p }] } := by
  refine hw.of_tasks (fun h hr => ?_) (fun h _ => ?_)
  · rw [List.getElem?_append] at h
    split at h
    · exact h
    · obtain rfl := List.mem_singleton.1 (List.mem_of_getElem? h)
      simp [Stage.run?] at hr
  · rwa [List.getElem?_append_left (length_of_getElem? h)]

/-- A turn of the `i`-th call `t`, given how its action ended. -/
theorem resume_eq {i : Nat} {t : Task} {res : Except Fault Stage} {s' : Session}
    (h : (t.turn tell).run.run w.session = (res, s')) :
    w.resume tell i t = if t.launches w.session.ctl then
      { session := s', tasks := (w.tasks.map (Task.handOver w.session.ctl.stopRequested)).set i
          { stage := Stage.ofResult res } }
    else { session := s', tasks := w.tasks.set i { t with stage := Stage.ofResult res } } := by
  simp only [World.resume, h]

/-- A turn of a call that launches nothing leaves the other calls as they were. -/
theorem resume_of_not_launches {i : Nat} {t : Task} {res : Except Fault Stage} {s' : Session}
    (hl : t.launches w.session.ctl = false) (h : (t.turn tell).run.run w.session = (res, s')) :
    w.resume tell i t =
      { session := s', tasks := w.tasks.set i { t with stage := Stage.ofResult res } } := by
  rw [resume_eq h, if_neg (by simp [hl])]

theorem launches_of_run {c : Controller} {t : Task} {run : Nat} (h : t.stage.run? = some run) :
    t.launches c = false := by
  rcases Stage.run?_eq_some.1 h with ⟨_, hst⟩ | ⟨_, _, hst⟩ <;> simp [Task.launches, hst]

/-- The turn of the current call keeps the calls separated: its run stays current and the only
one, or ends, and every other call in flight stays not current. -/
theorem Separated.resume_current (htell : ∀ n, Settled (tell n)) (hw : w.Separated) {i : Nat}
    {t : Task} (ht : w.tasks[i]? = some t) {run : Nat} (hrun : t.stage.run? = some run)
    (hcur : run = w.session.ctl.runId) : (w.resume tell i t).Separated := by
  have hi := length_of_getElem? ht
  rcases hres : (t.turn tell).run.run w.session with ⟨res, s'⟩
  rw [resume_of_not_launches (launches_of_run hrun) hres]
  have htok := (hw.fits ht hrun).2.1 hcur
  obtain ⟨hleaves, hgrows, -⟩ := turn_current htell hrun htok hcur.symm
    (hw.running.2 ⟨i, t, ht, hcur ▸ hrun⟩) hres
  have hsep : Separated ⟨s', (w.tasks.map id).set i { t with stage := Stage.ofResult res }⟩ :=
    hw.update hi (g := id) (fun _ => rfl)
      (fun hj hu hr => (hw.fits hu hr).grows
        (fun h => hj (hw.apart hu ht hr (h.trans hcur.symm ▸ hrun))) hgrows)
      (fun hr => by
        obtain ⟨rfl, hfits⟩ := fits_of_leaves hleaves hr
        exact ⟨htok ▸ hfits, fun hj hu hr' => hj (hw.apart hu ht hr' hrun)⟩)
      hleaves.running
  rwa [List.map_id] at hsep

/-- An accepted start keeps the calls separated: no call was current, its run is a new one, and
every call before it keeps its own stop request, set. -/
theorem Separated.launch (htell : ∀ n, Settled (tell n)) (hw : w.Separated) {i : Nat}
    {p : Option (Program String)} {token : Option Bool}
    (ht : w.tasks[i]? = some { stage := .created p, token })
    (hacc : w.session.ctl.accepts p = true) :
    (w.resume tell i { stage := .created p, token }).Separated := by
  have hi := length_of_getElem? ht
  rcases hres : (Task.turn tell { stage := .created p, token }).run.run w.session with ⟨res, s'⟩
  rw [resume_eq hres, if_pos (by simp [Task.launches, hacc])]
  have hleaves := (begin_accepted htell hacc hres).1
  have hidle : w.session.ctl.state ≠ .running := by
    simp only [Controller.accepts, Bool.not_eq_true', Bool.or_eq_false_iff,
      beq_eq_false_iff_ne] at hacc
    exact hacc.2
  have hnot : ∀ {j : Nat} {u : Task} {r : Nat}, w.tasks[j]? = some u → u.stage.run? = some r →
      r ≠ w.session.ctl.runId :=
    fun hu hr h => hidle (hw.running.2 ⟨_, _, hu, h ▸ hr⟩)
  have hlt : w.session.ctl.runId < s'.ctl.runId := hleaves.le
  exact hw.update hi (g := Task.handOver w.session.ctl.stopRequested) (fun _ => rfl)
    (fun _ hu hr => (hw.fits hu hr).handOver (hnot hu hr) hlt)
    (fun hr => by
      obtain ⟨rfl, hfits⟩ := fits_of_leaves hleaves hr
      refine ⟨hfits, fun _ hu hr' => ?_⟩
      have := (hw.fits hu hr').1
      omega)
    hleaves.running

/-- **A turn of a call keeps the calls separated**: the current call stays the only current one or
ends, a detached call ends without a change, a launch hands the others over to keep their own stop
requests, and a refused start changes nothing. -/
theorem Separated.resume (htell : ∀ n, Settled (tell n)) (hw : w.Separated) {i : Nat} {t : Task}
    (ht : w.tasks[i]? = some t) : (w.resume tell i t).Separated := by
  cases hrun : t.stage.run? with
  | some run =>
    by_cases hcur : run = w.session.ctl.runId
    · exact hw.resume_current htell ht hrun hcur
    · -- a detached call: it ends at once, and changes nothing
      obtain ⟨pose, hturn, -⟩ := turn_detached hrun (Ne.symm hcur) ((hw.fits ht hrun).2.2 hcur)
      rw [resume_of_not_launches (launches_of_run hrun) hturn]
      exact hw.retire ht (by rw [hrun]; simpa using hcur) rfl
  | none =>
    obtain ⟨stage, token⟩ := t
    cases stage with
    | created p =>
      cases hacc : w.session.ctl.accepts p with
      | false =>
        -- refused: nothing changes
        have hturn : (Task.turn tell { stage := .created p, token }).run.run w.session =
            (.ok (.returned none), w.session) := begin_refused hacc
        rw [resume_of_not_launches (by simp [Task.launches, hacc]) hturn]
        exact hw.retire ht (by simp [hrun]) rfl
      | true => exact hw.launch htell ht hacc
    | starting | stepping => simp [Stage.run?] at hrun
    | returned _ | raised _ =>
      -- a call that returned or raised does nothing
      rw [resume_of_not_launches (by simp [Task.launches]) rfl]
      exact hw.retire ht (by simp [hrun]) hrun

/-- **Every turn keeps the calls separated.** -/
theorem Separated.turn (htell : ∀ n, Settled (tell n)) (hw : w.Separated) :
    ∀ τ, (w.turn tell τ).Separated
  | .spawn p => hw.spawn p
  | .stop => hw.call settled_stop
  | .clearAll => hw.call (settled_clearAll htell)
  | .reset => hw.call (settled_reset htell)
  | .run i => by
    cases hi : w.tasks[i]? with
    | none =>
      simp only [World.turn, hi]
      exact hw
    | some t =>
      simp only [World.turn, hi]
      exact hw.resume htell hi

/-- The worlds the loop reaches: from a session with no run going and no call made, any sequence
of turns. -/
inductive Reachable (tell : Tell) : World → Prop
  | start (s : Session) : s.ctl.state ≠ .running → Reachable tell ⟨s, []⟩
  | turn {w : World} (τ : Turn) : Reachable tell w → Reachable tell (w.turn tell τ)

/-- A sequence of turns from a reachable world reaches a world. -/
theorem reachable_foldl (τs : List Turn) :
    ∀ {w : World}, Reachable tell w → Reachable tell (τs.foldl (World.turn tell) w) :=
  fun hw => List.foldlRecOn τs _ hw fun _ h τ _ => .turn τ h

theorem Reachable.separated (htell : ∀ n, Settled (tell n)) (hw : Reachable tell w) :
    w.Separated := by
  induction hw with
  | start s hs => exact ⟨by simp, by simp, by simpa using hs⟩
  | turn τ _ ih => exact ih.turn htell τ

/-- The session after a turn of the `i`-th call is the one its action leaves. -/
theorem turn_run_session {i : Nat} {t : Task} (ht : w.tasks[i]? = some t) :
    (w.turn tell (.run i)).session = ((t.turn tell).run.run w.session).2 := by
  simp only [World.turn, ht]
  rcases h : (t.turn tell).run.run w.session with ⟨res, s'⟩
  rw [resume_eq h]
  split <;> rfl

/-- **Concurrent start calls stay separated.** Start calls run as tasks of one event loop, their
turns interleaved in any order with new start calls and with stops, clears and resets made by
other tasks, every listener calm. At every point between two turns:
* at most one call in flight is current;
* every other call in flight has its stop request set, and its next turn ends it, returning the
  pose it paused at before its next leaf and changing nothing else: neither the state, the pen,
  the path nor any notice;
* the state is `RUNNING` exactly while a current call is in flight;
* a turn of the current call, or the turn of an accepted start, that ends with its run detached
  ends with the controller `IDLE` at its origin with the one-point path, as the clear left it;
* a start the controller refuses (the program empty, or a run going) returns none and changes
  nothing else. -/
theorem runs_stay_separated (htell : ∀ n, Calm (tell n)) (hw : Reachable tell w) :
    (∀ {i j : Nat} {t u : Task}, w.tasks[i]? = some t → w.tasks[j]? = some u →
      t.stage.run? = some w.session.ctl.runId → u.stage.run? = some w.session.ctl.runId →
      i = j) ∧
    (∀ {i : Nat} {t : Task} {run : Nat}, w.tasks[i]? = some t → t.stage.run? = some run →
      run ≠ w.session.ctl.runId →
      t.token.getD w.session.ctl.stopRequested = true ∧ ∃ pose,
        w.turn tell (.run i) =
          { w with tasks := w.tasks.set i { t with stage := .returned (some pose) } } ∧
        ∀ cell k, t.stage = .stepping run cell k → pose = k.pose) ∧
    (w.session.ctl.state = .running ↔
      ∃ (i : Nat) (t : Task), w.tasks[i]? = some t ∧ t.stage.run? = some w.session.ctl.runId) ∧
    (∀ {i : Nat} {t : Task}, w.tasks[i]? = some t → t.stage.run? = some w.session.ctl.runId →
      Released w.session.ctl.runId (w.turn tell (.run i)).session.ctl) ∧
    (∀ {i : Nat} {t : Task} {p : Option (Program String)}, w.tasks[i]? = some t →
      t.stage = .created p → w.session.ctl.accepts p = true →
      Released (w.session.ctl.runId + 1) (w.turn tell (.run i)).session.ctl) ∧
    (∀ {i : Nat} {t : Task} {p : Option (Program String)}, w.tasks[i]? = some t →
      t.stage = .created p → w.session.ctl.accepts p = false →
      w.turn tell (.run i) = { w with tasks := w.tasks.set i { t with stage := .returned none } }) := by
  have hsettled : ∀ n, Settled (tell n) := fun n => (htell n).settled
  have hsep := hw.separated hsettled
  refine ⟨hsep.apart, fun ht hrun hne => ?_, hsep.running, fun ht hrun => ?_,
    fun {_ t _} ht hst hacc => ?_, fun {_ t _} ht hst hacc => ?_⟩
  · -- a detached call
    have hstop := (hsep.fits ht hrun).2.2 hne
    obtain ⟨pose, hturn, hpose⟩ := turn_detached hrun (Ne.symm hne) hstop
    refine ⟨hstop, pose, ?_, hpose⟩
    simp only [World.turn, ht]
    exact resume_of_not_launches (launches_of_run hrun) hturn
  · -- the current call
    rw [turn_run_session ht]
    exact (turn_current hsettled hrun ((hsep.fits ht hrun).2.1 rfl) rfl
      (hsep.running.2 ⟨_, _, ht, hrun⟩) rfl).2.2
  · -- an accepted start
    obtain ⟨stage, token⟩ := t
    rw [turn_run_session ht]
    dsimp only at hst
    subst hst
    exact (begin_accepted hsettled hacc rfl).2
  · -- a refused start
    obtain ⟨stage, token⟩ := t
    dsimp only at hst
    subst hst
    have hturn : (Task.turn tell { stage := .created _, token := token }).run.run w.session =
        (.ok (.returned none), w.session) := begin_refused hacc
    simp only [World.turn, ht]
    exact resume_of_not_launches (by simp [Task.launches, hacc]) hturn

/-- Recorders only, a fresh controller: a start call of a one-move program takes its first turn, a
clear detaches it, and a second start call takes its first turn. The state is `RUNNING`, held by
the second call alone; the first call's stop request is set, and its next turn ends it, changing
nothing but its own stage. -/
theorem detached_call_yields_to_second_start :
    let w := [.spawn (some [.leaf "a" (.move .forward 1)]), .run 0, .clearAll,
      .spawn (some [.leaf "b" (.move .forward 1)]), .run 1].foldl (World.turn record)
      (⟨{ ctl := Controller.create {} none }, []⟩ : World)
    (∀ n, Calm (record n)) ∧ Reachable record w ∧ w.session.ctl.state = .running ∧
      (∀ {i : Nat} {t : Task}, w.tasks[i]? = some t → t.stage.run? = some w.session.ctl.runId →
        i = 1) ∧
      ∃ t pose, w.tasks[0]? = some t ∧ t.stage.run? = some 1 ∧ 1 ≠ w.session.ctl.runId ∧
        t.token.getD w.session.ctl.stopRequested = true ∧
        w.turn record (.run 0) =
          { w with tasks := w.tasks.set 0 { t with stage := .returned (some pose) } } := by
  intro w
  have hcalm : ∀ n, Calm (record n) := fun _ => .count fun _ => rfl
  have hw : Reachable record w :=
    reachable_foldl _ (.start { ctl := Controller.create {} none } (by decide))
  obtain ⟨hapart, hdetached, hrunning, -, -, -⟩ := runs_stay_separated hcalm hw
  -- the second call holds run 3, the controller's; the first, detached by the clear, holds run 1
  have hid : w.session.ctl.runId = 3 := by decide +kernel
  have h0 : (w.tasks[0]?.map fun t => t.stage.run?) = some (some 1) := by decide +kernel
  have h1 : (w.tasks[1]?.map fun t => t.stage.run?) = some (some w.session.ctl.runId) := by
    decide +kernel
  obtain ⟨t, ht, hrun⟩ := Option.map_eq_some_iff.1 h0
  obtain ⟨u, hu, hcur⟩ := Option.map_eq_some_iff.1 h1
  have hne : 1 ≠ w.session.ctl.runId := by rw [hid]; decide
  obtain ⟨htoken, pose, hturn, -⟩ := hdetached ht hrun hne
  exact ⟨hcalm, hw, hrunning.2 ⟨1, u, hu, hcur⟩, fun hi hc => hapart hi hu hc hcur,
    t, pose, ht, hrun, hne, htoken, hturn⟩

end World

end Turtle
