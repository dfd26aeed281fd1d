import Turtle.Run.Engine

/-!
# Runs replay their trace

The engine walks a pruned program lazily, one leaf at a time, and so does the trace. Both walks
are walks over the list of leaves the program runs (`Program.allLeaves`): `Agenda.foldlM_eq_toList`
says so for any fold, and `Program.trace_eq_ofLeaves` writes the trace as a recursion over that
list (`Visit.ofLeaves`). The trace lists one visit per leaf, in order (`Program.trace_leaves`),
and a visit carries a path sample exactly when its leaf moves (`Program.trace_sample`).

Once the trace of a program is known, a run of the engine is a replay of it (`Engine.replay`):
before each visit the run checks for a stop request, pauses, checks again, and reports the
visit's pose and sample. `Engine.execute_eq_replay` proves this in every monad and for every
probe, so what a run does under any way of asking it to stop is decided by a walk over the trace.
-/

namespace Turtle

variable {ι : Type}

theorem Except.bind_eq_ok {ε α β : Type} {x : Except ε α} {f : α → Except ε β} {b : β} :
    x >>= f = .ok b ↔ ∃ a, x = .ok a ∧ f a = .ok b := by
  cases x with
  | error e => exact ⟨fun h => (nomatch h), fun ⟨_, h, _⟩ => (nomatch h)⟩
  | ok a => exact ⟨fun h => ⟨a, rfl, h⟩, fun ⟨_, h, hf⟩ => by cases h; exact hf⟩

/-! ## The lazy walk and the list of leaves -/

namespace Agenda

theorem toList_of_next_none {a : Agenda ι} (h : a.next = none) : a.toList = [] := by
  rw [toList]; split <;> simp_all

theorem toList_of_next_some {a rest : Agenda ι} {l : Leaf ι} (h : a.next = some (l, rest)) :
    a.toList = l :: rest.toList := by
  rw [toList]; split <;> simp_all

/-- Folding over the agenda as `next` unfolds it is folding over its list of leaves. -/
theorem foldlM_eq_toList {m : Type → Type} [Monad m] [LawfulMonad m] {σ : Type}
    (f : σ → Leaf ι → m σ) (s : σ) (a : Agenda ι) :
    a.foldlM f s = a.toList.foldlM f s := by
  induction a using toList.induct generalizing s with
  | case1 a h => rw [foldlM, toList_of_next_none h]; split <;> simp_all
  | case2 a l rest h ih =>
    rw [foldlM, toList_of_next_some h]
    split
    · simp_all
    · rename_i l' rest' h'
      rw [h] at h'
      cases h'
      simp [ih]

end Agenda

/-! ## The trace as a recursion over the leaves -/

/-- The visits of a run of the leaves `ls` from `pose`, one leaf after another. -/
def Visit.ofLeaves (cell : Scale) : List (Leaf ι) → Pose → Except Fault (List (Visit ι))
  | [], _ => pure []
  | l :: ls, pose => do
    let (q, sample) ← pose.step cell l.act
    let vs ← ofLeaves cell ls q
    pure (⟨l, q, sample⟩ :: vs)

namespace Visit

@[simp] theorem ofLeaves_nil (cell : Scale) (pose : Pose) :
    ofLeaves cell ([] : List (Leaf ι)) pose = .ok [] := rfl

theorem ofLeaves_cons_eq_ok {cell : Scale} {l : Leaf ι} {ls : List (Leaf ι)} {pose : Pose}
    {T : List (Visit ι)} :
    ofLeaves cell (l :: ls) pose = .ok T ↔
      ∃ q sample vs, pose.step cell l.act = .ok (q, sample) ∧ ofLeaves cell ls q = .ok vs ∧
        T = ⟨l, q, sample⟩ :: vs := by
  simp only [ofLeaves, Except.bind_eq_ok, Prod.exists]
  constructor
  · rintro ⟨q, sample, hq, vs, hvs, h⟩
    exact ⟨q, sample, vs, hq, hvs, (Except.ok.inj h).symm⟩
  · rintro ⟨q, sample, vs, hq, hvs, rfl⟩
    exact ⟨q, sample, hq, vs, hvs, rfl⟩

theorem ofLeaves_leaves {cell : Scale} :
    ∀ {ls : List (Leaf ι)} {pose : Pose} {T : List (Visit ι)},
      ofLeaves cell ls pose = .ok T → T.map Visit.leaf = ls
  | [], _, _, h => by cases h; rfl
  | l :: ls, _, _, h => by
    obtain ⟨_, _, _, -, hvs, rfl⟩ := ofLeaves_cons_eq_ok.1 h
    simp [ofLeaves_leaves hvs]

end Visit

/-- Whether an action moves the pen. -/
def Action.isMove : Action → Bool
  | .move _ _ => true
  | .turn _ _ => false

/-- A step reports the new position as a sample exactly when it moves. -/
theorem Pose.step_sample {cell : Scale} {pose q : Pose} {act : Action} {sample : Option Point}
    (h : pose.step cell act = .ok (q, sample)) :
    sample = if act.isMove then some q.position else none := by
  cases act with
  | move way cells =>
    obtain ⟨d, -, h⟩ := Except.bind_eq_ok.1 h
    cases h
    rfl
  | turn way degrees =>
    obtain ⟨t, -, h⟩ := Except.bind_eq_ok.1 h
    cases h
    rfl

theorem Visit.ofLeaves_sample {cell : Scale} :
    ∀ {ls : List (Leaf ι)} {pose : Pose} {T : List (Visit ι)}, ofLeaves cell ls pose = .ok T →
      ∀ v ∈ T, v.sample = if v.leaf.act.isMove then some v.pose.position else none
  | [], _, _, h => by cases h; simp
  | l :: ls, _, _, h => by
    obtain ⟨_, _, _, hq, hvs, rfl⟩ := ofLeaves_cons_eq_ok.1 h
    rintro v (_ | ⟨_, hv⟩)
    · exact Pose.step_sample hq
    · exact ofLeaves_sample hvs v hv

namespace Program

/-- The trace folds over the lazy walk; it is the recursion `Visit.ofLeaves` over the leaves. -/
theorem trace_eq_ofLeaves (cell : Scale) (p : Program ι) (s : Pose) :
    p.trace cell s = Visit.ofLeaves cell p.allLeaves s := by
  -- the fold keeps the visits reversed in an accumulator; generalise over it
  have key : ∀ (ls : List (Leaf ι)) (acc : List (Visit ι)) (pose : Pose),
      (fun a => a.snd.reverse) <$> ls.foldlM (fun x l =>
        (fun a => (a.fst, (⟨l, a.fst, a.snd⟩ : Visit ι) :: x.snd)) <$>
          Pose.step cell x.fst l.act)
        (pose, acc) = (acc.reverse ++ ·) <$> Visit.ofLeaves cell ls pose := by
    intro ls
    induction ls with
    | nil => intro acc pose; simp [Visit.ofLeaves]
    | cons l ls ih =>
      intro acc pose
      simp only [List.foldlM_cons, Visit.ofLeaves]
      cases h : pose.step cell l.act with
      | error e => rfl
      | ok r =>
        obtain ⟨q, sample⟩ := r
        have := ih ((⟨l, q, sample⟩ : Visit ι) :: acc) q
        rw [show (Except.ok (q, sample) : Except Fault (Pose × Option Point)) = pure (q, sample)
          from rfl]
        simp only [map_pure, pure_bind, this]
        simp
  simpa [Program.trace, Program.allLeaves, Agenda.foldlM_eq_toList] using key _ [] s

/-- The trace has one visit per leaf the program runs, in order. -/
theorem trace_leaves {cell : Scale} {p : Program ι} {s : Pose} {T : List (Visit ι)}
    (h : p.trace cell s = .ok T) : T.map Visit.leaf = p.allLeaves :=
  Visit.ofLeaves_leaves (trace_eq_ofLeaves cell p s ▸ h)

/-- A visit of the trace carries the new position as its sample exactly when its leaf moves. -/
theorem trace_sample {cell : Scale} {p : Program ι} {s : Pose} {T : List (Visit ι)}
    (h : p.trace cell s = .ok T) :
    ∀ v ∈ T, v.sample = if v.leaf.act.isMove then some v.pose.position else none :=
  Visit.ofLeaves_sample (trace_eq_ofLeaves cell p s ▸ h)

/-- A program that prunes to nothing runs no leaf: its trace is empty, from any pose. -/
theorem trace_of_prune_nil (cell : Scale) {p : Program ι} (h : p.prune = []) (s : Pose) :
    p.trace cell s = .ok [] := by
  have hnext : Agenda.next ([] : Agenda ι) = none := by rw [Agenda.next]
  rw [trace_eq_ofLeaves, allLeaves, h, Agenda.toList_of_next_none hnext]
  rfl

end Program

/-! ## The engine replays the trace -/

namespace Engine

variable {m : Type → Type} [Monad m] [MonadExceptOf Fault m]

/-- A run that replays known visits from `pose`, `steps` of them having run before: the stop
checks and the pause of the engine, and a report of each visit. -/
def replay (probe : Probe m) : List (Visit ι) → Pose → Nat → m Outcome
  | [], pose, steps => pure ⟨pose, true, steps⟩
  | v :: vs, pose, steps => do
    if ← probe.stopRequested then return ⟨pose, false, steps⟩
    probe.pause
    if ← probe.stopRequested then return ⟨pose, false, steps⟩
    probe.report v.pose v.sample
    replay probe vs v.pose (steps + 1)

variable [LawfulMonad m] (probe : Probe m) (cell : Scale)

/-- Run from an agenda whose visits are known, the engine replays them. -/
theorem loop_eq_replay (a : Agenda ι) (pose : Pose) (steps : Nat) {T : List (Visit ι)}
    (h : Visit.ofLeaves cell a.toList pose = .ok T) :
    loop probe cell a pose steps = replay probe T pose steps := by
  induction a, pose, steps using loop.induct generalizing T with
  | case1 a pose steps hn =>
    rw [Agenda.toList_of_next_none hn] at h
    cases h
    rw [loop]
    split <;> simp_all [replay]
  | case2 a pose steps l rest hn ih =>
    rw [Agenda.toList_of_next_some hn] at h
    obtain ⟨q, sample, vs, hq, hvs, rfl⟩ := Visit.ofLeaves_cons_eq_ok.1 h
    rw [loop]
    split
    · simp_all
    · rename_i l' rest' hn'
      rw [hn] at hn'
      cases hn'
      simp only [replay, hq, liftExcept, ih q hvs, pure_bind]

/-- **A run replays the trace.** Whatever the monad and the probe, a run of a program whose trace
is `T` is the replay of `T`. -/
theorem execute_eq_replay {p : Program ι} {s : Pose} {T : List (Visit ι)}
    (h : p.trace cell s = .ok T) : execute probe cell p s = replay probe T s 0 :=
  loop_eq_replay probe cell _ s 0 (Program.trace_eq_ofLeaves cell p s ▸ h)

end Engine

end Turtle
