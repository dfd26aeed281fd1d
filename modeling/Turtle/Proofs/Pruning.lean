import Turtle.Proofs.Unrolling

/-!
# The pruned program never stalls

`Program.prune` drops, in one pass, the blocks that would run no leaf. What it leaves is
productive (`Command.Productive`): a leaf, or a block with at least one round whose body is not
empty and productive again, down to every depth. So the walk over each command left yields a
leaf, and so does every round of every block it opens: a block of huge count around blocks that
run nothing is gone before the walk starts, instead of running empty rounds.

A run reaches a leaf of a command (`Command.Live`) when the command is that leaf, or the leaf lies
in the body of a block of positive count. Pruning keeps exactly the commands in which a run
reaches a leaf (`Command.isSome_prune`), so it leaves nothing exactly when the run reaches no leaf
of the program.

The main statement is `Program.prune_never_stalls`.
-/

namespace Turtle

variable {ι : Type}

namespace Command

/-- A command the lazy walk never stalls on: a leaf, or a block with at least one round whose
body is not empty and holds productive commands only. -/
inductive Productive : Command ι → Prop
  | leaf (i : ι) (a : Action) : Productive (.leaf i a)
  | block {i : ι} {n : Nat} {b : List (Command ι)} :
      0 < n → b ≠ [] → (∀ c ∈ b, Productive c) → Productive (.block i n b)

/-- A command in which a run reaches a leaf: the leaf itself, or a block of positive count with
such a command in its body. -/
inductive Live : Command ι → Prop
  | leaf (i : ι) (a : Action) : Live (.leaf i a)
  | block {i : ι} {n : Nat} {b : List (Command ι)} {c : Command ι} :
      0 < n → c ∈ b → Live c → Live (.block i n b)

/-- `d` is a node of the tree of `c`: `c` itself, or a node of a command in a block's body. -/
inductive Within (d : Command ι) : Command ι → Prop
  | refl : Within d d
  | body {i : ι} {n : Nat} {b : List (Command ι)} {c : Command ι} :
      c ∈ b → Within d c → Within d (.block i n b)

/-! ## Pruning leaves productive commands -/

mutual

theorem productive_of_prune : ∀ (c : Command ι) {c' : Command ι}, prune c = some c' → c'.Productive
  | .leaf i a, c', h => by
    cases h
    exact .leaf i a
  | .block i n b, c', h => by
    by_cases hn : n = 0
    · simp [prune, hn] at h
    -- a block is kept with its pruned body, which is not empty
    cases hb : pruneAll b with
    | nil => simp [prune, hn, hb] at h
    | cons d ds =>
      simp only [prune, hn, hb, ↓reduceIte, Option.some.injEq] at h
      subst h
      refine .block (Nat.pos_of_ne_zero hn) (List.cons_ne_nil d ds) fun e he => ?_
      exact productive_of_mem_pruneAll b (hb ▸ he)

/-- **Every command pruning leaves is productive.** -/
theorem productive_of_mem_pruneAll :
    ∀ (cs : List (Command ι)) {c' : Command ι}, c' ∈ pruneAll cs → c'.Productive
  | [], _, h => absurd h List.not_mem_nil
  | c :: cs, c', h => by
    cases hc : prune c with
    | none =>
      simp only [pruneAll, hc] at h
      exact productive_of_mem_pruneAll cs h
    | some d =>
      simp only [pruneAll, hc, List.mem_cons] at h
      rcases h with rfl | h
      · exact productive_of_prune c hc
      · exact productive_of_mem_pruneAll cs h

end

/-! ## A productive command yields a leaf in every round -/

/-- A body that is not empty and whose commands all yield a leaf yields one. -/
theorem unrollAll_ne_nil {cs : List (Command ι)} (hcs : cs ≠ []) (h : ∀ c ∈ cs, c.unroll ≠ []) :
    unrollAll cs ≠ [] := by
  obtain ⟨c, cs, rfl⟩ := List.exists_cons_of_ne_nil hcs
  simp [unrollAll, h c List.mem_cons_self]

/-- **A productive command yields a leaf.** -/
theorem Productive.unroll_ne_nil {c : Command ι} (h : c.Productive) : c.unroll ≠ [] := by
  induction h with
  | leaf i a => simp [unroll]
  | block hn hb _ ih =>
    -- the first round runs the body, which yields a leaf
    obtain ⟨k, rfl⟩ := Nat.exists_eq_add_one_of_ne_zero (Nat.pos_iff_ne_zero.1 hn)
    simp [unroll, List.replicate_succ, unrollAll_ne_nil hb ih]

/-- Every node of a productive command is productive. -/
theorem Productive.of_within {c d : Command ι} (hd : d.Within c) (h : c.Productive) :
    d.Productive := by
  induction hd with
  | refl => exact h
  | body hc _ ih =>
    cases h with
    | block _ _ hall => exact ih (hall _ hc)

/-! ## Pruning keeps what a run reaches -/

mutual

/-- **Pruning keeps exactly the commands in which a run reaches a leaf.** -/
theorem isSome_prune : ∀ c : Command ι, (prune c).isSome ↔ c.Live
  | .leaf i a => by simpa [prune] using Live.leaf i a
  | .block i n b => by
    by_cases hn : n = 0
    · subst hn
      simp only [prune, ↓reduceIte, Option.isSome_none, Bool.false_eq_true, false_iff]
      rintro (_ | ⟨hn, _, _⟩)
      exact absurd hn (Nat.lt_irrefl 0)
    have hb := ne_nil_pruneAll b
    constructor
    · intro h
      -- a block is kept only with a pruned body that is not empty
      have hne : pruneAll b ≠ [] := by
        intro hnil
        simp [prune, hn, hnil] at h
      obtain ⟨c, hc, hlive⟩ := hb.1 hne
      exact .block (Nat.pos_of_ne_zero hn) hc hlive
    · rintro (_ | ⟨_, hc, hlive⟩)
      cases hp : pruneAll b with
      | nil => exact absurd hp (hb.2 ⟨_, hc, hlive⟩)
      | cons d ds => simp [prune, hn, hp]

theorem ne_nil_pruneAll : ∀ cs : List (Command ι), pruneAll cs ≠ [] ↔ ∃ c ∈ cs, c.Live
  | [] => by simp [pruneAll]
  | c :: cs => by
    have hc := isSome_prune c
    have hcs := ne_nil_pruneAll cs
    cases hp : prune c with
    | none =>
      simp only [hp, Option.isSome_none, Bool.false_eq_true, false_iff] at hc
      simp only [pruneAll, hp, hcs, List.mem_cons, exists_eq_or_imp, hc, false_or]
    | some d =>
      simp only [hp, Option.isSome_some, true_iff] at hc
      simp [pruneAll, hp, hc]

end

end Command

theorem Agenda.toList_singleton (c : Command ι) : Agenda.toList [c] = c.unroll := by
  simp [Agenda.toList_eq_unrollAll, Command.unrollAll]

namespace Program

/-- **The pruned program never stalls.** Every command pruning leaves is productive, so the walk
over each of them yields a leaf; every block among them, at any depth, has rounds, and each of its
rounds (a walk over its body) yields a leaf. Pruning leaves nothing exactly when a run of the
program reaches no leaf: every block around a leaf has count zero. -/
theorem prune_never_stalls (p : Program ι) :
    (∀ c ∈ p.prune, c.Productive) ∧ (∀ c ∈ p.prune, Agenda.toList [c] ≠ []) ∧
    (∀ c ∈ p.prune, ∀ i n b, (Command.block i n b).Within c → 0 < n ∧ Agenda.toList b ≠ []) ∧
    (p.prune = [] ↔ ∀ c ∈ p, ¬ c.Live) := by
  have hprod : ∀ c ∈ p.prune, c.Productive := fun c hc => Command.productive_of_mem_pruneAll p hc
  refine ⟨hprod, fun c hc => ?_, fun c hc i n b hw => ?_, ?_⟩
  · rw [Agenda.toList_singleton]
    exact (hprod c hc).unroll_ne_nil
  · obtain _ | ⟨hn, hb, hall⟩ := (hprod c hc).of_within hw
    refine ⟨hn, ?_⟩
    rw [Agenda.toList_eq_unrollAll]
    exact Command.unrollAll_ne_nil hb fun d hd => (hall d hd).unroll_ne_nil
  · rw [show p.prune = Command.pruneAll p from rfl]
    have hlive := Command.ne_nil_pruneAll p
    constructor
    · intro hnil c hc h
      exact hlive.2 ⟨c, hc, h⟩ hnil
    · intro hnone
      refine Classical.byContradiction fun hne => ?_
      obtain ⟨c, hc, h⟩ := hlive.1 hne
      exact hnone c hc h

/-- A block of a trillion rounds around blocks that run nothing is dropped whole. -/
example : Program.prune [.block "r" (10 ^ 12) [.block "s" 0 [.leaf "a" (.move .forward 1)],
    .block "t" 5 []]] = [] := by decide

end Program

end Turtle
