import Turtle.Proofs.Showing

/-!
# Counting the steps of a run

`Program.stepCount` counts the leaves a run executes without unrolling anything: a leaf counts
one and a block its count times its body's. The lazy walk over the pruned program yields exactly
that many leaves, and asked for at most `k` of them it yields `k` or all.

The trace of a run applies those leaves one after another, and a leaf can fail to apply: a move's
distance or a turn's degrees may be an integer too large for a double (`Action.Fits`). Whether a
leaf fits depends on the cell size alone, never on the pose it is applied at, so the trace of a
program lists one visit per step exactly when every leaf the run executes fits, and fails with
the overflow otherwise, from whatever start. The main statement is
`Program.stepCount_counts_leaves`; `Program.trace_fails_on_far_turn` is a one-step program whose
trace lists no pose.
-/

namespace Turtle

variable {ι : Type}

/-- The integers of a leaf fit a double at a cell size: a move's distance can be computed, and a
turn's signed degrees convert to a double. -/
def Action.Fits (cell : Scale) : Action → Prop
  | .move way cells => ∃ d, Pose.distance cell way cells = .ok d
  | .turn way degrees => ∃ t, Float.ofInt? (degrees * if way == .right then 1 else -1) = some t

/-- An integer converted to a double, failing with the overflow, is the double it converts to. -/
theorem elim_eq_ok {o : Option Float} {t : Float}
    (h : o.elim (Except.error Fault.tooLargeForDouble) Except.ok = .ok t) : o = some t := by
  cases o with
  | none => cases h
  | some t' => cases h; rfl

theorem elim_eq_error {o : Option Float} {e : Fault}
    (h : o.elim (Except.error Fault.tooLargeForDouble) Except.ok = .error e) :
    e = .tooLargeForDouble := by
  cases o with
  | none => cases h; rfl
  | some t => cases h

/-- A computation followed by a result that cannot fail fails as the computation does. -/
theorem eq_error_of_bind_pure {α β : Type} {x : Except Fault α} {g : α → β} {e : Fault}
    (h : (x >>= fun a => pure (g a)) = .error e) : x = .error e := by
  cases x with
  | error e' => simpa [bind, Except.bind] using h
  | ok a => cases h

namespace Pose

variable {cell : Scale} {a : Action}

/-- A leaf that fits applies at every pose. -/
theorem step_of_fits (h : a.Fits cell) (pose : Pose) : ∃ r, pose.step cell a = .ok r := by
  cases a with
  | move way cells =>
    obtain ⟨d, hd⟩ := h
    exact ⟨_, by simp only [step, hd]; rfl⟩
  | turn way degrees =>
    obtain ⟨t, ht⟩ := h
    exact ⟨_, by simp only [step, ht]; rfl⟩

theorem fits_of_step {pose : Pose} {r : Pose × Option Point} (h : pose.step cell a = .ok r) :
    a.Fits cell := by
  cases a with
  | move way cells =>
    obtain ⟨d, hd, -⟩ := Except.bind_eq_ok.1 h
    exact ⟨d, hd⟩
  | turn way degrees =>
    obtain ⟨t, ht, -⟩ := Except.bind_eq_ok.1 h
    exact ⟨t, elim_eq_ok ht⟩

/-- A leaf fails to apply only by an integer too large for a double. -/
theorem step_error {pose : Pose} {e : Fault} (h : pose.step cell a = .error e) :
    e = .tooLargeForDouble := by
  cases a with
  | move way cells =>
    have hd : distance cell way cells = .error e := eq_error_of_bind_pure h
    cases cell with
    | exact c => exact elim_eq_error hd
    | double c => exact elim_eq_error (eq_error_of_bind_pure hd)
  | turn way degrees => exact elim_eq_error (eq_error_of_bind_pure h)

end Pose

namespace Visit

variable {cell : Scale}

/-- Leaves that all fit are applied one after another from any pose. -/
theorem ofLeaves_of_fits :
    ∀ {ls : List (Leaf ι)}, (∀ l ∈ ls, l.act.Fits cell) →
      ∀ pose, ∃ T, ofLeaves cell ls pose = .ok T
  | [], _, _ => ⟨[], rfl⟩
  | l :: ls, h, pose => by
    obtain ⟨⟨q, sample⟩, hq⟩ := Pose.step_of_fits (h l (List.mem_cons_self ..)) pose
    obtain ⟨T, hT⟩ := ofLeaves_of_fits (fun l' hl' => h l' (List.mem_cons_of_mem l hl')) q
    exact ⟨_, ofLeaves_cons_eq_ok.2 ⟨q, sample, T, hq, hT, rfl⟩⟩

/-- A leaf that does not fit stops the leaves with the overflow, wherever it stands and from
whatever pose. -/
theorem ofLeaves_of_not_fits :
    ∀ {ls : List (Leaf ι)}, (∃ l ∈ ls, ¬ l.act.Fits cell) →
      ∀ pose, ofLeaves cell ls pose = .error .tooLargeForDouble
  | [], ⟨_, hl, _⟩, _ => absurd hl List.not_mem_nil
  | l :: ls, ⟨l', hl', hfit⟩, pose => by
    cases hq : pose.step cell l.act with
    | error e =>
      simp only [ofLeaves, hq, Pose.step_error hq]
      rfl
    | ok r =>
      -- the first leaf applies, so the one that does not fit is further on
      have hrest : ∃ l ∈ ls, ¬ l.act.Fits cell := by
        rcases List.mem_cons.1 hl' with rfl | hmem
        · exact absurd (Pose.fits_of_step hq) hfit
        · exact ⟨l', hmem, hfit⟩
      obtain ⟨q, sample⟩ := r
      rw [ofLeaves, hq, show (Except.ok (q, sample) : Except Fault (Pose × Option Point)) =
        pure (q, sample) from rfl, pure_bind]
      dsimp only
      rw [ofLeaves_of_not_fits hrest q]
      rfl

end Visit

namespace Program

/-- **The step count is the number of leaves a run executes, and of poses its trace lists.**
Counted without unrolling, it is the number of leaves the lazy walk yields, all of them or at
most `k`. From any start and at any cell size, the trace lists that many visits when every leaf
the run executes fits a double, and fails with the overflow as soon as one does not. -/
theorem stepCount_counts_leaves (p : Program ι) :
    p.allLeaves.length = p.stepCount ∧ (∀ k, (p.leaves k).length = min k p.stepCount) ∧
    ∀ (cell : Scale) (start : Pose),
      ((∀ l ∈ p.unroll, l.act.Fits cell) →
        ∃ T, p.trace cell start = .ok T ∧ T.length = p.stepCount) ∧
      ((∃ l ∈ p.unroll, ¬ l.act.Fits cell) →
        p.trace cell start = .error .tooLargeForDouble) := by
  refine ⟨by rw [allLeaves_eq_unroll]; exact Command.length_unrollAll p, length_leaves p,
    fun cell start => ⟨fun hfit => ?_, fun hbad => ?_⟩⟩
  · rw [← allLeaves_eq_unroll] at hfit
    obtain ⟨T, hT⟩ := Visit.ofLeaves_of_fits hfit start
    rw [← trace_eq_ofLeaves] at hT
    exact ⟨T, hT, Gallery.length_trace hT⟩
  · rw [← allLeaves_eq_unroll] at hbad
    rw [trace_eq_ofLeaves]
    exact Visit.ofLeaves_of_not_fits hbad start

/-- A move too far for a double inside a block of count zero never runs, so the trace lists the
one turn of the program. -/
theorem trace_skips_far_move_never_run :
    let p : Program String :=
      [.block "r" 0 [.leaf "a" (.move .forward (Int.pow 10 400))], .leaf "b" (.turn .right 90)]
    (∀ l ∈ p.unroll, l.act.Fits (.exact 40)) ∧
      ∃ T, p.trace (.exact 40) ⟨0, 0, 0, true⟩ = .ok T ∧ T.length = 1 := by
  intro p
  have hfit : ∀ l ∈ p.unroll, l.act.Fits (.exact 40) := by
    intro l hl
    have hl' : l = ⟨"b", .turn .right 90⟩ := by
      simpa only [p, unroll, Command.unrollAll, Command.unroll, List.replicate_zero,
        List.flatten_nil, List.nil_append, List.append_nil, List.mem_singleton] using hl
    subst hl'
    exact Option.isSome_iff_exists.1 (by decide +kernel)
  exact ⟨hfit, ((stepCount_counts_leaves p).2.2 _ _).1 hfit⟩

/-- A turn of `10 ^ 400` degrees is one step, but its degrees do not fit a double: its trace
fails with the overflow and lists no pose at all. -/
theorem trace_fails_on_far_turn :
    let p : Program String := [.leaf "a" (.turn .right (Int.pow 10 400))]
    let start : Pose := ⟨0, 0, 0, true⟩
    p.stepCount = 1 ∧ (¬ ∃ T, p.trace (.exact 40) start = .ok T) ∧
      (match p.trace (.exact 40) start with
        | .ok _ => none
        | .error e => some e.message) = some "int too large to convert to float" := by
  intro p start
  have hfail : (match p.trace (.exact 40) start with
      | .ok _ => none
      | .error e => some e.message) = some "int too large to convert to float" := by
    decide +kernel
  refine ⟨rfl, fun ⟨T, hT⟩ => ?_, hfail⟩
  rw [hT] at hfail
  cases hfail

end Program

end Turtle
