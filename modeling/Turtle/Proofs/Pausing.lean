import Mathlib
import Turtle.Run.Pause
import Turtle.Proofs.Publishing

/-!
# When a pause ends

A pause has ended within `n` rounds exactly when one of them found a stop request at the end of
its sleep, or began with at most the poll interval of time remaining (`Pause.endsWithin_iff`). The
second is a comparison of doubles, and two facts about them decide it: no double is at most one
that is not a number, and only -∞ is at most -∞. So a pause whose poll interval is not a number
ends only at a stop request, whatever the clock does, and one whose poll interval is -∞ does too
while no time remaining is -∞. With a stop request that is never set neither ends, not even a
pause of no duration under a clock that honours its sleeps: that is the controller's pause that
never returns (`Controller.pause`).

The main statement is `Pause.ends_iff_stop_or_due`.
-/

namespace Turtle

open Float.Model

/-! ## Comparing with NaN and -∞ -/

theorem Float.unpack_of_isNaN {y : Float} (hy : y.isNaN = true) :
    y.toModel.unpack = .notANumber := by
  revert hy
  show y.toModel.unpack.isNaN = true → _
  cases y.toModel.unpack <;> simp [UnpackedFloat.isNaN]

theorem Float.unpack_neg_inf : (-(1.0 / 0.0) : Float).toModel.unpack = .infinity .negative := rfl

theorem Float.unpack_of_beq_neg_inf {y : Float} (hy : (y == -(1.0 / 0.0)) = true) :
    y.toModel.unpack = .infinity .negative := by
  revert hy
  show y.toModel.unpack.beq (-(1.0 / 0.0) : Float).toModel.unpack = true → _
  rw [Float.unpack_neg_inf]
  rcases y.toModel.unpack with (_ | _) | _ | (_ | _) | ⟨_ | _, _, _, _⟩ <;>
    simp +decide [UnpackedFloat.beq, UnpackedFloat.compare]

/-- **No double is at most one that is not a number.** -/
theorem Float.not_le_of_isNaN {x y : Float} (hy : y.isNaN = true) : ¬ x ≤ y := by
  show ¬ x.le y = true
  simp only [Float.le, decide_eq_true_eq]
  show ¬ x.toModel.unpack.le y.toModel.unpack = true
  rw [Float.unpack_of_isNaN hy]
  cases x.toModel.unpack <;> simp [UnpackedFloat.le, UnpackedFloat.compare]

/-- **Only -∞ is at most -∞.** -/
theorem Float.le_iff_of_beq_neg_inf {x y : Float} (hy : (y == -(1.0 / 0.0)) = true) :
    x ≤ y ↔ (x == -(1.0 / 0.0)) = true := by
  show x.le y = true ↔ x.beq _ = true
  simp only [Float.le, Float.beq, decide_eq_true_eq]
  show x.toModel.unpack.le y.toModel.unpack = true ↔
    x.toModel.unpack.beq (-(1.0 / 0.0) : Float).toModel.unpack = true
  rw [Float.unpack_of_beq_neg_inf hy, Float.unpack_neg_inf]
  rcases x.toModel.unpack with (_ | _) | _ | (_ | _) | ⟨_ | _, _, _, _⟩ <;>
    simp +decide [UnpackedFloat.le, UnpackedFloat.beq, UnpackedFloat.compare]

/-- An endless poll interval is above every time remaining but -∞. -/
theorem Float.not_le_of_endless {x y : Float} (hy : Pause.endless y = true)
    (hx : (x == -(1.0 / 0.0)) = false) : ¬ x ≤ y := by
  rcases Bool.or_eq_true _ _ ▸ hy with hnan | hinf
  · exact Float.not_le_of_isNaN hnan
  · rw [Float.le_iff_of_beq_neg_inf hinf, hx]
    exact Bool.false_ne_true

namespace Pause

variable {p : Pause} {L : Loop}

/-! ## The rounds of a pause -/

theorem endsAfter_iff {k : Nat} :
    p.endsAfter L k = true ↔ L.stopped k = true ∨ p.remaining L k ≤ p.poll := by
  simp [endsAfter]

/-- **The run of a pause**: it has ended within `n` rounds exactly when one of them ends it. -/
theorem endsWithin_iff (n : Nat) : p.endsWithin L n = true ↔ ∃ k < n, p.endsAfter L k = true := by
  induction n with
  | zero => simp [endsWithin]
  | succ n ih =>
    simp only [endsWithin, Bool.or_eq_true, ih]
    constructor
    · rintro (⟨k, hk, h⟩ | h)
      · exact ⟨k, Nat.lt_succ_of_lt hk, h⟩
      · exact ⟨n, Nat.lt_succ_self n, h⟩
    · rintro ⟨k, hk, h⟩
      rcases Nat.lt_succ_iff_lt_or_eq.1 hk with hk | rfl
      · exact .inl ⟨k, hk, h⟩
      · exact .inr h

/-- A round that finds a stop request ends the pause. -/
theorem endsWithin_of_stopped {k : Nat} (h : L.stopped k = true) : p.endsWithin L (k + 1) = true :=
  (endsWithin_iff (k + 1)).2 ⟨k, Nat.lt_succ_self k, endsAfter_iff.2 (.inl h)⟩

/-- When the rounds end the pause only at a stop request, so does the whole pause. -/
theorem endsWithin_iff_stopped (h : ∀ k, p.endsAfter L k = L.stopped k) (n : Nat) :
    p.endsWithin L n = true ↔ ∃ k < n, L.stopped k = true := by
  simp only [endsWithin_iff, h]

/-- With a poll interval that is not a number a round ends the pause only at a stop request. -/
theorem endsAfter_of_isNaN (h : p.poll.isNaN = true) (k : Nat) : p.endsAfter L k = L.stopped k := by
  simp [endsAfter, Float.not_le_of_isNaN h]

/-- With an endless poll interval a round that does not begin with -∞ of time remaining ends the
pause only at a stop request. -/
theorem endsAfter_of_endless (h : endless p.poll = true) {k : Nat}
    (hk : (p.remaining L k == -(1.0 / 0.0)) = false) : p.endsAfter L k = L.stopped k := by
  simp [endsAfter, Float.not_le_of_endless h hk]

/-- **When a pause ends.** It has ended within `n` rounds exactly when one of them found a stop
request at the end of its sleep, or began with at most the poll interval of time remaining; so
the round that first finds a stop request ends it, if none did before. With a poll interval that
is not a number only a stop request ends it, whatever the clock does, and with one that is -∞
too, while no time remaining is -∞: a pause whose stop request is never set then never ends. -/
theorem ends_iff_stop_or_due (p : Pause) (L : Loop) :
    (∀ n, p.endsWithin L n = true ↔ ∃ k < n, L.stopped k = true ∨ p.remaining L k ≤ p.poll) ∧
    (∀ k, L.stopped k = true → p.endsWithin L (k + 1) = true) ∧
    (p.poll.isNaN = true → ∀ n, p.endsWithin L n = true ↔ ∃ k < n, L.stopped k = true) ∧
    (endless p.poll = true → (∀ k, (p.remaining L k == -(1.0 / 0.0)) = false) →
      ∀ n, p.endsWithin L n = true ↔ ∃ k < n, L.stopped k = true) := by
  refine ⟨fun n => ?_, fun k => endsWithin_of_stopped, fun hnan => ?_, fun hend hrem => ?_⟩
  · simp only [endsWithin_iff, endsAfter_iff]
  · exact endsWithin_iff_stopped (endsAfter_of_isNaN hnan)
  · exact endsWithin_iff_stopped fun k => endsAfter_of_endless hend (hrem k)

/-- A pause of no duration whose poll interval is not a number, under a clock that stands still
(which honours its sleeps, all of no time) and with no stop request, never ends. -/
theorem nan_poll_pause_never_ends :
    let p : Pause := ⟨0.0, 0.0 / 0.0⟩
    let L : Loop := ⟨0.0, fun _ => 0.0, fun _ => false⟩
    p.Honours L ∧ p.poll.isNaN = true ∧ ∀ n, p.endsWithin L n = false := by
  intro p L
  have hnan : p.poll.isNaN = true := by decide
  refine ⟨⟨by decide, fun k => ?_⟩, hnan, fun n => ?_⟩
  · -- every round sleeps no time, so the clock may stand still
    simp only [p, L, sleep, remaining, deadline]
    decide
  have hends := (ends_iff_stop_or_due p L).2.2.1 hnan n
  cases h : p.endsWithin L n with
  | false => rfl
  | true =>
    obtain ⟨k, -, hk⟩ := hends.1 h
    exact absurd hk Bool.false_ne_true

end Pause

namespace Controller

/-- **The controller's pause** fails as never returning exactly when no stop is requested and the
poll interval of the settings is endless, and changes nothing. -/
theorem pause_run (s : Session) :
    pause.run.run s =
      (if !s.ctl.stopRequested && Pause.endless s.ctl.settings.pollInterval then
        .error .pauseNeverEnds else .ok (), s) := by
  rw [pause, run_now_bind]
  cases (!s.ctl.stopRequested && Pause.endless s.ctl.settings.pollInterval) <;> rfl

end Controller

end Turtle
