import Turtle.Program.Leaves

/-!
# The lazy walk unrolls the program

A run takes its leaves off an agenda one at a time (`Agenda.next`) after the program was pruned
once (`Program.prune`); the meaning of a program is its naive unrolling (`Program.unroll`), each
block's body written out once per round. The two agree.

* `Command.unrollAll_pruneAll`: pruning drops only blocks that unroll to nothing, so it keeps the
  unrolling, leaf for leaf and in order.
* `Agenda.unrollAll_next`: taking the next leaf off an agenda splits its unrolling into that leaf
  and the unrolling of the rest, for every agenda, pruned or not; so the whole walk
  (`Agenda.toList`) and its first `k` steps (`Agenda.take`) are the unrolling and its first `k`
  leaves.
* `Command.length_unrollAll`: the count of steps computed without unrolling is the length of the
  unrolling, so asked for at most `k` leaves the walk yields `k` or all (`Program.length_leaves`).

The main statement is `Program.leaves_unroll`.
-/

namespace Turtle

variable {ι : Type}

namespace Command

theorem unrollAll_append (a b : List (Command ι)) :
    unrollAll (a ++ b) = unrollAll a ++ unrollAll b := by
  induction a with
  | nil => rfl
  | cons c cs ih => simp [unrollAll, ih]

mutual

/-- A command unrolls as what is left of it after pruning, nothing when nothing is left. -/
theorem unroll_prune : ∀ c : Command ι, ((prune c).map unroll).getD [] = unroll c
  | .leaf i a => rfl
  | .block i n b => by
    by_cases hn : n = 0
    · subst hn
      simp [prune, unroll]
    -- the body unrolls as its pruned form; an empty pruned body unrolls to nothing
    have hb := unrollAll_pruneAll b
    cases hp : pruneAll b with
    | nil =>
      rw [hp] at hb
      simp [prune, hn, hp, unroll, ← hb, unrollAll]
    | cons c cs =>
      rw [hp] at hb
      simp [prune, hn, hp, unroll, hb]

/-- **Pruning keeps the unrolling.** -/
theorem unrollAll_pruneAll : ∀ cs : List (Command ι), unrollAll (pruneAll cs) = unrollAll cs
  | [] => rfl
  | c :: cs => by
    have hc := unroll_prune c
    cases hp : prune c with
    | none =>
      rw [hp] at hc
      simp [pruneAll, hp, unrollAll, ← hc, unrollAll_pruneAll cs]
    | some c' =>
      rw [hp] at hc
      simp [pruneAll, hp, unrollAll, ← hc, unrollAll_pruneAll cs]

end

mutual

theorem length_unroll : ∀ c : Command ι, (unroll c).length = stepCount c
  | .leaf _ _ => rfl
  | .block _ n b => by
    simp [unroll, stepCount, length_unrollAll b]

/-- **The step count is the number of leaves a run unrolls**, counted without unrolling. -/
theorem length_unrollAll : ∀ cs : List (Command ι), (unrollAll cs).length = stepCountAll cs
  | [] => rfl
  | c :: cs => by
    simp [unrollAll, stepCountAll, length_unroll c, length_unrollAll cs]

end

end Command

namespace Agenda

/-- **Taking the next leaf splits the unrolling.** Whatever the agenda, its unrolling is empty
when no leaf is left, and is the next leaf followed by the unrolling of the rest otherwise. -/
theorem unrollAll_next (a : Agenda ι) :
    Command.unrollAll a =
      match a.next with
      | none => []
      | some (l, rest) => l :: Command.unrollAll rest := by
  induction a using next.induct with
  | case1 => simp [next, Command.unrollAll]
  | case2 i act rest => simp [next, Command.unrollAll, Command.unroll]
  | case3 i b rest ih =>
    rw [next, ← ih]
    simp [Command.unrollAll, Command.unroll]
  | case4 i n b rest ih =>
    -- a block with rounds left is its body followed by the block with one round less
    rw [next, ← ih]
    simp [Command.unrollAll, Command.unroll, Command.unrollAll_append, List.replicate_succ]

/-- The walk over an agenda lists its unrolling. -/
theorem toList_eq_unrollAll (a : Agenda ι) : a.toList = Command.unrollAll a := by
  induction a using toList.induct with
  | case1 a h =>
    rw [toList, unrollAll_next a]
    split <;> simp_all
  | case2 a l rest h ih =>
    rw [toList, unrollAll_next a]
    split <;> simp_all

/-- The first `k` steps of the walk are the first `k` leaves of the unrolling. -/
theorem take_eq_unrollAll (k : Nat) (a : Agenda ι) : take k a = (Command.unrollAll a).take k := by
  induction k generalizing a with
  | zero => rfl
  | succ k ih =>
    rw [take, unrollAll_next a]
    cases a.next with
    | none => rfl
    | some r => simp [ih]

end Agenda

namespace Program

/-- **A run's leaves are the naive unrolling.** The leaves a run takes off the pruned program,
all of them or the first `k`, are those of the program written out with each block's body once
per round, in the same order and as many times; pruning the program leaves that unrolling as it
is; and the step count computed without unrolling is its length. -/
theorem leaves_unroll (p : Program ι) :
    p.allLeaves = p.unroll ∧ (∀ k, p.leaves k = p.unroll.take k) ∧ p.prune.unroll = p.unroll ∧
      p.unroll.length = p.stepCount := by
  have hprune : p.prune.unroll = p.unroll := Command.unrollAll_pruneAll p
  refine ⟨?_, fun k => ?_, hprune, Command.length_unrollAll p⟩
  · rw [allLeaves, Agenda.toList_eq_unrollAll]
    exact hprune
  · rw [leaves, Agenda.take_eq_unrollAll]
    exact congrArg (List.take k) hprune

/-- The lazy walk over the pruned program lists the naive unrolling. -/
theorem allLeaves_eq_unroll (p : Program ι) : p.allLeaves = p.unroll := by
  rw [allLeaves, Agenda.toList_eq_unrollAll]
  exact Command.unrollAll_pruneAll p

theorem length_leaves (p : Program ι) (k : Nat) :
    (p.leaves k).length = min k p.stepCount := by
  rw [leaves, Agenda.take_eq_unrollAll, List.length_take, prune, Command.unrollAll_pruneAll,
    Command.length_unrollAll]
  rfl

end Program

end Turtle
