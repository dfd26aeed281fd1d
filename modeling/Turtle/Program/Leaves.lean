import Turtle.Command.Basic

/-!
# The leaves a run executes

A run executes the leaves of a program in order, each block's body as many times as its count.
`Command.unroll` says this directly; it is the meaning of a program and no way to compute it,
since a count may be `10^12`.

The runs compute the same sequence lazily. `Program.prune` first drops the blocks that can never
execute a leaf (count zero, or a body that prunes to nothing); an `Agenda` is the work still to
do, where a block stands for its remaining rounds, and `Agenda.next` takes the next leaf off it.
`Agenda.cost` falls with every step of `next`, so the walk ends; on a pruned program each step
finds a leaf within the depth of the program. `Program.leaves` takes the first leaves, and
`Program.stepCount` counts all of them without unrolling.
-/

namespace Turtle

variable {ι : Type}

namespace Command

mutual

/-- The leaves a command runs, in order: a block's body once per round. -/
def unroll : Command ι → List (Leaf ι)
  | .leaf i a => [⟨i, a⟩]
  | .block _ n b => (List.replicate n (unrollAll b)).flatten

/-- The leaves a list of commands runs, in order. -/
def unrollAll : List (Command ι) → List (Leaf ι)
  | [] => []
  | c :: cs => unroll c ++ unrollAll cs

end

mutual

/-- The command without the blocks that run no leaf, or `none` when nothing of it runs. -/
def prune : Command ι → Option (Command ι)
  | .leaf i a => some (.leaf i a)
  | .block i n b =>
    if n = 0 then none
    else match pruneAll b with
      | [] => none
      | b' => some (.block i n b')

/-- The commands without the blocks that run no leaf. -/
def pruneAll : List (Command ι) → List (Command ι)
  | [] => []
  | c :: cs =>
    match prune c with
    | some c' => c' :: pruneAll cs
    | none => pruneAll cs

end

mutual

/-- The number of leaves a command runs, counted without unrolling. -/
def stepCount : Command ι → Nat
  | .leaf _ _ => 1
  | .block _ n b => n * stepCountAll b

/-- The number of leaves a list of commands runs. -/
def stepCountAll : List (Command ι) → Nat
  | [] => 0
  | c :: cs => stepCount c + stepCountAll cs

end

mutual

/-- A bound on the steps `Agenda.next` spends on a command: one for a leaf, and for a block one
more than its rounds, each round costing its body and one step to open it. -/
def cost : Command ι → Nat
  | .leaf _ _ => 1
  | .block _ n b => n * (costAll b + 1) + 1

/-- The cost of a list of commands. -/
def costAll : List (Command ι) → Nat
  | [] => 0
  | c :: cs => cost c + costAll cs

end

theorem costAll_append (a b : List (Command ι)) : costAll (a ++ b) = costAll a + costAll b := by
  induction a with
  | nil => simp [costAll]
  | cons c cs ih => simp [costAll, ih, Nat.add_assoc]

end Command

namespace Program

/-- The program without the blocks that run no leaf. -/
def prune (p : Program ι) : Program ι := Command.pruneAll p

/-- The number of leaves a run of the program executes. -/
def stepCount (p : Program ι) : Nat := Command.stepCountAll p

/-- The leaves a run of the program executes, in order. -/
def unroll (p : Program ι) : List (Leaf ι) := Command.unrollAll p

end Program

/-- The work still to do in a run: commands in order, a block standing for its remaining rounds. -/
abbrev Agenda (ι : Type) := List (Command ι)

namespace Agenda

/-- The cost of an agenda, which every step of `next` lowers. -/
def cost (a : Agenda ι) : Nat := Command.costAll a

/-- The next leaf of the agenda and the work after it: a block with rounds left opens its body
before itself with one round less, a block with none is dropped. -/
def next : Agenda ι → Option (Leaf ι × Agenda ι)
  | [] => none
  | .leaf i a :: rest => some (⟨i, a⟩, rest)
  | .block _ 0 _ :: rest => next rest
  | .block i (n + 1) b :: rest => next (b ++ .block i n b :: rest)
termination_by a => cost a
decreasing_by
  · simp [cost, Command.costAll, Command.cost]
  · simp only [cost, Command.costAll_append, Command.costAll, Command.cost, Nat.succ_mul]
    omega

theorem cost_next {a a' : Agenda ι} {l : Leaf ι} (h : a.next = some (l, a')) :
    a'.cost < a.cost := by
  induction a using next.induct with
  | case1 => simp [next] at h
  | case2 i act rest =>
    simp only [next, Option.some.injEq, Prod.mk.injEq] at h
    obtain ⟨-, rfl⟩ := h
    simp [cost, Command.costAll, Command.cost]
  | case3 i b rest ih =>
    rw [next] at h
    have := ih h
    simp only [cost, Command.costAll, Command.cost] at this ⊢
    omega
  | case4 i n b rest ih =>
    rw [next] at h
    have := ih h
    simp only [cost, Command.costAll_append, Command.costAll, Command.cost, Nat.succ_mul] at this ⊢
    omega

/-- The first `limit` leaves of the agenda. -/
def take : Nat → Agenda ι → List (Leaf ι)
  | 0, _ => []
  | limit + 1, a =>
    match a.next with
    | none => []
    | some (l, rest) => l :: take limit rest

/-- All leaves of the agenda, in order. -/
def toList (a : Agenda ι) : List (Leaf ι) :=
  match h : a.next with
  | none => []
  | some (l, rest) => l :: toList rest
termination_by a.cost
decreasing_by exact cost_next h

/-- Folds `f` over the leaves of the agenda in order, one leaf at a time, so that a monad that
stops (a failure) stops before the rest of the agenda is unfolded. -/
def foldlM {m : Type → Type} [Monad m] {σ : Type} (f : σ → Leaf ι → m σ) (s : σ)
    (a : Agenda ι) : m σ :=
  match h : a.next with
  | none => pure s
  | some (l, rest) => do
    let s' ← f s l
    foldlM f s' rest
termination_by a.cost
decreasing_by exact cost_next h

end Agenda

namespace Program

/-- The first `limit` leaves a run of the program executes. -/
def leaves (p : Program ι) (limit : Nat) : List (Leaf ι) := Agenda.take limit p.prune

/-- All leaves a run of the program executes. -/
def allLeaves (p : Program ι) : List (Leaf ι) := Agenda.toList p.prune

end Program

end Turtle
