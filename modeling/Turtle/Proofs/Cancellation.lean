import Turtle.Proofs.Replay
import Turtle.Proofs.Unrolling

/-!
# Stopping a run

A run is asked to stop through a shared flag that it reads twice per leaf. Here the flag lives in
a world `σ` that three parties change: whoever starts the run sets the world up (the flag may be
set already), other tasks change it while the run pauses (`Schedule.pause`), and the report
callback changes it after each step (`Schedule.callback`). Nobody clears the flag once it is set
(`Schedule.Keeps`). `Schedule.probe` is what the engine reads and does under such a schedule; it
also records every report.

`Schedule.StopsAt T w j` says the flag is first seen set when the run, replaying the trace `T`
from the world `w`, would apply the leaf after the `j`-th: it is clear before each of the first
`j` leaves is applied and set before the next one would be. Every schedule stops at some `j`
(`Schedule.exists_stopsAt`), and the main statement, `Engine.execute_stops_at`, says the run is
then a prefix of the uninterrupted one: it reports the first `j` visits of the trace, in order,
and returns the pose of the last of them, `j` steps, and completion exactly when `j` is the
number of leaves.
-/

namespace Turtle

/-- How a run is asked to stop: the stop flag as read off a world, what happens to the world
while the run pauses, and what the report callback does to it. -/
structure Schedule (σ : Type) where
  /-- whether the stop flag is set -/
  cancelled : σ → Bool
  /-- what other tasks do while the run pauses -/
  pause : σ → σ
  /-- what the report callback does with the new pose and sample -/
  callback : Pose → Option Point → σ → σ

namespace Schedule

variable {σ ι : Type} (S : Schedule σ)

/-- Nobody clears the stop flag: once set, pauses and callbacks leave it set. -/
def Keeps : Prop :=
  (∀ w, S.cancelled w = true → S.cancelled (S.pause w) = true) ∧
    ∀ q o w, S.cancelled w = true → S.cancelled (S.callback q o w) = true

/-- A run under a schedule keeps the world and the reports received so far. -/
abbrev Run (σ : Type) := StateT (σ × List (Pose × Option Point)) (Except Fault)

/-- What a run under the schedule reads and does: it reads the flag, lets the world change while
it pauses, and records each report before the callback acts. -/
def probe : Probe (Run σ) where
  stopRequested := do pure (S.cancelled (← get).1)
  pause := modify fun (w, reports) => (S.pause w, reports)
  report pose sample := modify fun (w, reports) =>
    (S.callback pose sample w, reports ++ [(pose, sample)])

section Probe

variable {α : Type} (w : σ) (reports : List (Pose × Option Point))

@[simp] theorem probe_stopRequested_bind (f : Bool → Run σ α) :
    (S.probe.stopRequested >>= f).run (w, reports) = (f (S.cancelled w)).run (w, reports) := rfl

@[simp] theorem probe_pause_bind (f : Unit → Run σ α) :
    (S.probe.pause >>= f).run (w, reports) = (f ()).run (S.pause w, reports) := rfl

@[simp] theorem probe_report_bind (pose : Pose) (sample : Option Point) (f : Unit → Run σ α) :
    (S.probe.report pose sample >>= f).run (w, reports) =
      (f ()).run (S.callback pose sample w, reports ++ [(pose, sample)]) := rfl

end Probe

/-- The world just before a run from `w` that replays `T` would apply the leaf after the `i`-th,
its pause done, when nothing stopped it before. -/
def beforeLeaf : σ → List (Visit ι) → Nat → σ
  | w, v :: vs, i + 1 => beforeLeaf (S.callback v.pose v.sample (S.pause w)) vs i
  | w, _, _ => S.pause w

/-- The flag is first seen set when the leaf after the `j`-th would be applied: it is clear before
each of the first `j` leaves is applied, and set before the next one would be. -/
def StopsAt (T : List (Visit ι)) (w : σ) (j : Nat) : Prop :=
  j ≤ T.length ∧ (∀ i < j, S.cancelled (S.beforeLeaf w T i) = false) ∧
    (j < T.length → S.cancelled (S.beforeLeaf w T j) = true)

variable {S}

theorem stopsAt_nil {w : σ} {j : Nat} : S.StopsAt ([] : List (Visit ι)) w j ↔ j = 0 := by
  simp only [StopsAt, List.length_nil, Nat.le_zero, Nat.not_lt_zero, false_imp_iff, and_true,
    and_iff_left_iff_imp]
  rintro rfl i hi
  omega

theorem stopsAt_cons_zero {v : Visit ι} {vs : List (Visit ι)} {w : σ} :
    S.StopsAt (v :: vs) w 0 ↔ S.cancelled (S.pause w) = true := by
  simp [StopsAt, beforeLeaf]

theorem stopsAt_cons_succ {v : Visit ι} {vs : List (Visit ι)} {w : σ} {j : Nat} :
    S.StopsAt (v :: vs) w (j + 1) ↔
      S.cancelled (S.pause w) = false ∧
        S.StopsAt vs (S.callback v.pose v.sample (S.pause w)) j := by
  simp only [StopsAt, List.length_cons, Nat.add_le_add_iff_right, Nat.add_lt_add_iff_right]
  constructor
  · rintro ⟨hj, hbefore, hafter⟩
    refine ⟨hbefore 0 (by omega), hj, fun i hi => hbefore (i + 1) (by omega), hafter⟩
  · rintro ⟨h0, hj, hbefore, hafter⟩
    refine ⟨hj, fun i hi => ?_, hafter⟩
    cases i with
    | zero => exact h0
    | succ i => exact hbefore i (by omega)

/-- Every schedule stops a replay somewhere, possibly after its last leaf. -/
theorem exists_stopsAt (S : Schedule σ) :
    ∀ (T : List (Visit ι)) (w : σ), ∃ j, S.StopsAt T w j
  | [], _ => ⟨0, stopsAt_nil.2 rfl⟩
  | v :: vs, w => by
    cases h : S.cancelled (S.pause w) with
    | true => exact ⟨0, stopsAt_cons_zero.2 h⟩
    | false =>
      obtain ⟨j, hj⟩ := exists_stopsAt S vs (S.callback v.pose v.sample (S.pause w))
      exact ⟨j + 1, stopsAt_cons_succ.2 ⟨h, hj⟩⟩

end Schedule

namespace Engine

open Schedule

variable {σ ι : Type} {S : Schedule σ}

/-- A replay under a schedule that stops it after `j` leaves reports the first `j` visits and
ends at the last of them, complete exactly when `j` is all of them. -/
theorem replay_of_stopsAt (hS : S.Keeps) :
    ∀ (T : List (Visit ι)) (w : σ) (reports : List (Pose × Option Point)) (pose : Pose)
      (steps j : Nat), S.StopsAt T w j →
      ∃ w', (replay S.probe T pose steps).run (w, reports) =
        .ok (⟨((T.take j).map Visit.pose).getLastD pose, decide (j = T.length), steps + j⟩,
          w', reports ++ (T.take j).map fun v => (v.pose, v.sample))
  | [], w, reports, pose, steps, j, h => by
    obtain rfl := stopsAt_nil.1 h
    exact ⟨w, by simp only [List.take_zero, List.map_nil, List.append_nil]; rfl⟩
  | v :: vs, w, reports, pose, steps, 0, h => by
    have hp := stopsAt_cons_zero.1 h
    -- the run stops at one of the two checks before the first leaf
    cases hw : S.cancelled w with
    | true =>
      refine ⟨w, ?_⟩
      simp only [replay, probe_stopRequested_bind, hw, ↓reduceIte, List.take_zero, List.map_nil,
        List.append_nil]
      rfl
    | false =>
      refine ⟨S.pause w, ?_⟩
      simp only [replay, probe_stopRequested_bind, hw, Bool.false_eq_true, ↓reduceIte,
        probe_pause_bind, hp, List.take_zero, List.map_nil, List.append_nil]
      rfl
  | v :: vs, w, reports, pose, steps, j + 1, h => by
    obtain ⟨hp, hj⟩ := stopsAt_cons_succ.1 h
    -- a flag clear after the pause was clear before it
    have hw : S.cancelled w = false := by
      cases hw : S.cancelled w with
      | false => rfl
      | true => rw [hS.1 w hw] at hp; cases hp
    obtain ⟨w', hrun⟩ := replay_of_stopsAt hS vs _ (reports ++ [(v.pose, v.sample)]) v.pose
      (steps + 1) j hj
    refine ⟨w', ?_⟩
    simp only [replay, probe_stopRequested_bind, hw, Bool.false_eq_true, ↓reduceIte,
      probe_pause_bind, hp, probe_report_bind, hrun, List.take_succ_cons, List.map_cons,
      List.getLastD_cons, List.length_cons, Nat.add_right_cancel_iff, List.append_assoc,
      List.singleton_append, Nat.add_assoc, Nat.add_comm 1 j]

/-- **A stopped run is a prefix of the uninterrupted one.** Let `T` be the trace of `p` from
`s`. It has one visit per leaf the program runs, and a visit's sample is the new position
exactly for a move. Every schedule that never clears the stop flag stops the run after some `j`
leaves; then the run reports exactly the first `j` visits of `T`, in order, and returns the pose
of the last of them (`s` when `j = 0`), `j` steps, and completion exactly when `j` is the number
of leaves. -/
theorem execute_stops_at (hS : S.Keeps) (w : σ) {cell : Scale} {p : Program ι} {s : Pose}
    {T : List (Visit ι)} (h : p.trace cell s = .ok T) :
    T.map Visit.leaf = p.allLeaves ∧
      (∀ v ∈ T, v.sample = if v.leaf.act.isMove then some v.pose.position else none) ∧
      (∃ j, S.StopsAt T w j) ∧
      ∀ j, S.StopsAt T w j →
        ∃ w', (execute S.probe cell p s).run (w, []) =
          .ok (⟨((T.take j).map Visit.pose).getLastD s, decide (j = T.length), j⟩,
            w', (T.take j).map fun v => (v.pose, v.sample)) := by
  refine ⟨Program.trace_leaves h, Program.trace_sample h, S.exists_stopsAt T w, fun j hj => ?_⟩
  rw [execute_eq_replay S.probe cell h]
  simpa using replay_of_stopsAt hS T w [] s 0 j hj

/-- Two runs under schedules that never clear the flag. A block of two rounds around a move and a
turn, whose report callback counts the reports and whose flag is set once two were made, stops
after the second of its four leaves: it reports the first two visits of its trace and returns the
pose of the second, two steps, and no completion. A program whose blocks hold no leaf, with the
flag set before the run, completes with no step. -/
theorem execute_stops_mid_run_or_before :
    let S : Schedule Nat := ⟨fun w => decide (2 ≤ w), id, fun _ _ w => w + 1⟩
    let p : Program String :=
      [.block "r" 2 [.leaf "f" (.move .forward 1), .leaf "t" (.turn .right 90)]]
    let S₀ : Schedule Bool := ⟨id, id, fun _ _ _ => true⟩
    let p₀ : Program String := [.block "r" 3 [.block "s" 0 [.leaf "f" (.move .forward 1)]]]
    let s : Pose := ⟨0, 0, 0, true⟩
    (S.Keeps ∧ ∃ T, p.trace (.exact 40) s = .ok T ∧ T.length = 4 ∧ S.StopsAt T 0 2 ∧
      ∃ w', (execute S.probe (.exact 40) p s).run (0, []) =
        .ok (⟨((T.take 2).map Visit.pose).getLastD s, false, 2⟩, w',
          (T.take 2).map fun v => (v.pose, v.sample))) ∧
    (S₀.Keeps ∧ p₀.trace (.exact 40) s = .ok [] ∧
      ∃ w', (execute S₀.probe (.exact 40) p₀ s).run (true, []) = .ok (⟨s, true, 0⟩, w', [])) := by
  intro S p S₀ p₀ s
  -- the counting schedule: the flag is set from the second report on, and stays set
  have hS : S.Keeps := ⟨fun _ h => h, fun _ _ w h => by
    simp only [S, decide_eq_true_eq] at h ⊢
    omega⟩
  have hok : (p.trace (.exact 40) s).isOk = true := by
    rw [Program.trace_eq_ofLeaves, Program.allLeaves_eq_unroll]
    decide
  obtain ⟨T, hT⟩ : ∃ T, p.trace (.exact 40) s = .ok T := by
    cases h : p.trace (.exact 40) s with
    | ok T => exact ⟨T, rfl⟩
    | error e => rw [h] at hok; cases hok
  obtain ⟨hleaves, -, -, hrun⟩ := execute_stops_at hS 0 hT
  -- the trace has one visit per leaf: four
  have hlen : T.length = 4 := by
    have h := congrArg List.length hleaves
    rw [List.length_map, Program.allLeaves_eq_unroll] at h
    rw [h]
    decide
  obtain ⟨a, b, c, d, rfl⟩ : ∃ a b c d, T = [a, b, c, d] := by
    match T, hlen with
    | [a, b, c, d], _ => exact ⟨a, b, c, d, rfl⟩
  have hstops : S.StopsAt [a, b, c, d] 0 2 := by
    rw [stopsAt_cons_succ, stopsAt_cons_succ, stopsAt_cons_zero]
    simp [S]
  obtain ⟨w', hw'⟩ := hrun 2 hstops
  refine ⟨⟨hS, [a, b, c, d], hT, hlen, hstops, w', ?_⟩, ?_⟩
  · rw [hw']
    rfl
  -- the leafless program, with the flag set before the run
  have hS₀ : S₀.Keeps := ⟨fun _ h => h, fun _ _ _ _ => rfl⟩
  have h₀ : p₀.trace (.exact 40) s = .ok [] := Program.trace_of_prune_nil _ rfl s
  obtain ⟨-, -, -, hrun₀⟩ := execute_stops_at hS₀ true h₀
  exact ⟨hS₀, h₀, hrun₀ 0 (stopsAt_nil.2 rfl)⟩

end Engine

end Turtle
