import Turtle.Program.Edit

/-!
# Edits share everything off the edited path

A node of a program sits in a `Context`: the commands before and after it at its own level, and
the blocks around it, each with the commands before and after it at its level. `Context.fill`
puts commands back into the hole, `Context.ancestors` lists the blocks around the hole, outermost
first, and `Context.before` lists the identifiers that come before the hole in pre-order. The
first node in pre-order with identifier `x` is the node of a context whose `before` misses `x`;
every program that has `x` has such a decomposition (`Program.exists_first`).

`Program.replace_fill` says what the walk of every edit does: it puts what the edit makes of the
first match into the very same context, and reports as built anew the blocks around it and what
the edit built. Nothing else is rebuilt: the commands before and after the path, at every level,
are those of the program. When no node has the identifier, the walk finds nothing
(`Program.replace_of_not_mem`).

The main statement, `Program.edits_rebuild_path`, reads this off for the three edits: removal,
update and insertion into a block or at the top level.
-/

namespace Turtle

variable {ι : Type}

/-- A program with a hole where one node stood. -/
inductive Context (ι : Type) where
  /-- the hole is at the top level, between `pre` and `post` -/
  | top (pre post : List (Command ι))
  /-- the hole is in the body of block `i` of count `n`, which stands between `pre` and `post` -/
  | within (pre : List (Command ι)) (i : ι) (n : Nat) (inner : Context ι) (post : List (Command ι))

namespace Context

/-- The program with `xs` in the hole. -/
def fill : Context ι → List (Command ι) → Program ι
  | top pre post, xs => pre ++ xs ++ post
  | within pre i n inner post, xs => pre ++ .block i n (inner.fill xs) :: post

/-- The identifiers of the blocks around the hole, outermost first. -/
def ancestors : Context ι → List ι
  | top _ _ => []
  | within _ i _ inner _ => i :: inner.ancestors

/-- The identifiers that come before the hole in pre-order. -/
def before : Context ι → List ι
  | top pre _ => Command.idsAll pre
  | within pre i _ inner _ => Command.idsAll pre ++ i :: inner.before

/-- The context with `c` before everything at the top level. -/
def cons (c : Command ι) : Context ι → Context ι
  | top pre post => top (c :: pre) post
  | within pre i n inner post => within (c :: pre) i n inner post

@[simp] theorem fill_cons (c : Command ι) (ctx : Context ι) (xs : List (Command ι)) :
    (ctx.cons c).fill xs = c :: ctx.fill xs := by
  cases ctx <;> rfl

@[simp] theorem before_cons (c : Command ι) (ctx : Context ι) :
    (ctx.cons c).before = c.ids ++ ctx.before := by
  cases ctx <;> simp [cons, before, Command.idsAll]

@[simp] theorem ancestors_cons (c : Command ι) (ctx : Context ι) :
    (ctx.cons c).ancestors = ctx.ancestors := by
  cases ctx <;> rfl

end Context

namespace Program

variable [DecidableEq ι]

/-- Every program that has `x` is a context around the first node with identifier `x`. -/
theorem exists_first (x : ι) :
    ∀ p : Program ι, x ∈ Command.idsAll p →
      ∃ (ctx : Context ι) (c : Command ι), p = ctx.fill [c] ∧ c.id = x ∧ x ∉ ctx.before
  | [], h => by simp [Command.idsAll] at h
  | .leaf i a :: cs, h => by
    by_cases hi : i = x
    · exact ⟨.top [] cs, .leaf i a, rfl, hi, by simp [Context.before, Command.idsAll]⟩
    · have hcs : x ∈ Command.idsAll cs := by
        simpa [Command.idsAll, Command.ids, Ne.symm hi] using h
      obtain ⟨ctx, d, rfl, hd, hx⟩ := exists_first x cs hcs
      exact ⟨ctx.cons (.leaf i a), d, by simp, hd, by simp [Command.ids, Ne.symm hi, hx]⟩
  | .block i n b :: cs, h => by
    by_cases hi : i = x
    · exact ⟨.top [] cs, .block i n b, rfl, hi, by simp [Context.before, Command.idsAll]⟩
    by_cases hb : x ∈ Command.idsAll b
    · -- the first match is inside the block
      obtain ⟨inner, d, rfl, hd, hx⟩ := exists_first x b hb
      exact ⟨.within [] i n inner cs, d, rfl, hd,
        by simp [Context.before, Command.idsAll, Ne.symm hi, hx]⟩
    · have hcs : x ∈ Command.idsAll cs := by
        simpa [Command.idsAll, Command.ids, Ne.symm hi, hb] using h
      obtain ⟨ctx, d, rfl, hd, hx⟩ := exists_first x cs hcs
      exact ⟨ctx.cons (.block i n b), d, by simp, hd, by simp [Command.ids, Ne.symm hi, hb, hx]⟩
termination_by p => Command.sizeAll p
decreasing_by
  all_goals simp only [Command.sizeAll, Command.size]
  all_goals omega

variable {m : Type → Type} [Monad m] [LawfulMonad m] (x : ι)
  (f : Command ι → m (List (Command ι) × List ι))

mutual

theorem replaceIn_of_not_mem : ∀ c : Command ι, x ∉ c.ids → replaceIn x f c = pure none
  | .leaf i a, h => by
    have : i ≠ x := fun hi => h (by simp [Command.ids, hi])
    simp [replaceIn, this]
  | .block i n b, h => by
    have hi : i ≠ x := fun hi => h (by simp [Command.ids, hi])
    have hb : x ∉ Command.idsAll b := fun hb => h (by simp [Command.ids, hb])
    simp [replaceIn, hi, replace_of_not_mem b hb]

/-- A walk that does not meet `x` finds nothing and builds nothing. -/
theorem replace_of_not_mem :
    ∀ cs : List (Command ι), x ∉ Command.idsAll cs → replace x f cs = pure none
  | [], _ => rfl
  | c :: cs, h => by
    have hc : x ∉ c.ids := fun hc => h (by simp [Command.idsAll, hc])
    have hcs : x ∉ Command.idsAll cs := fun hcs => h (by simp [Command.idsAll, hcs])
    simp [replace, replaceIn_of_not_mem c hc, replace_of_not_mem cs hcs]

end

/-- The walk passes over commands that do not have `x`, keeping them in front. -/
theorem replace_append {pre : List (Command ι)} (hpre : x ∉ Command.idsAll pre)
    (rest : List (Command ι)) :
    replace x f (pre ++ rest) =
      Option.map (fun r => ⟨pre ++ r.program, r.fresh⟩) <$> replace x f rest := by
  induction pre with
  | nil => simp
  | cons c cs ih =>
    have hc : x ∉ c.ids := fun hc => hpre (by simp [Command.idsAll, hc])
    have hcs : x ∉ Command.idsAll cs := fun hcs => hpre (by simp [Command.idsAll, hcs])
    simp only [List.cons_append, replace, replaceIn_of_not_mem x f c hc, pure_bind, ih hcs,
      bind_map_left]
    rw [map_eq_pure_bind]
    congr 1
    funext r
    cases r <;> rfl

theorem replaceIn_of_id {c : Command ι} (hc : c.id = x) :
    replaceIn x f c = (fun r => some ⟨r.1, r.2⟩) <$> f c := by
  cases c with
  | leaf i a =>
    simp only [Command.id] at hc
    simp [replaceIn, hc]
  | block i n b =>
    simp only [Command.id] at hc
    simp [replaceIn, hc]

/-- **The walk of an edit rebuilds exactly the path to the first match.** What the edit makes of
the first match goes into the same context, and the nodes built anew are the blocks around it,
outermost first, and those the edit built. -/
theorem replace_fill :
    ∀ (ctx : Context ι) {c : Command ι}, c.id = x → x ∉ ctx.before →
      replace x f (ctx.fill [c]) =
        (fun r => some ⟨ctx.fill r.1, ctx.ancestors ++ r.2⟩) <$> f c
  | .top pre post, c, hc, hx => by
    simp only [Context.before] at hx
    simp only [Context.fill, List.append_assoc, List.singleton_append, replace_append x f hx,
      replace, replaceIn_of_id x f hc, bind_map_left, Context.ancestors, List.nil_append,
      ← map_eq_pure_bind, Functor.map_map, Option.map_some]
  | .within pre i n inner post, c, hc, hx => by
    simp only [Context.before, List.mem_append, List.mem_cons, not_or] at hx
    obtain ⟨hpre, hi, hinner⟩ := hx
    simp only [Context.fill, replace_append x f hpre, replace, replaceIn, Ne.symm hi,
      ↓reduceIte, replace_fill inner hc hinner, bind_map_left, ← map_eq_pure_bind,
      Functor.map_map, Option.map_some, Context.ancestors, List.nil_append, List.cons_append]

/-! ## The three edits -/

section Edits

variable {x : ι} {ctx : Context ι} {c : Command ι}

theorem remove_fill (hc : c.id = x) (hx : x ∉ ctx.before) :
    (ctx.fill [c]).remove x = some ⟨ctx.fill [], ctx.ancestors⟩ := by
  simp [remove, replace_fill x _ ctx hc hx]

theorem update_fill (hc : c.id = x) (hx : x ∉ ctx.before) (v : Datum) :
    (ctx.fill [c]).update x v = some ⟨ctx.fill [c.setValue v.asInt], ctx.ancestors ++ [x]⟩ := by
  simp [update, replace_fill x _ ctx hc hx, hc]

variable [ToString ι]

theorem insert_fill {n : Nat} {b : List (Command ι)} (hx : x ∉ ctx.before) (cmd : Command ι)
    (hclash : (ctx.fill [.block x n b]).clash cmd = none) :
    (ctx.fill [.block x n b]).insert (some x) cmd =
      .ok ⟨ctx.fill [.block x n (b ++ [cmd])], ctx.ancestors ++ x :: cmd.ids⟩ := by
  simp only [insert, hclash, replace_fill x _ ctx (c := .block x n b) rfl hx]
  rfl

theorem insert_top (p : Program ι) (cmd : Command ι) (hclash : p.clash cmd = none) :
    p.insert none cmd = .ok ⟨p ++ [cmd], cmd.ids⟩ := by
  simp only [insert, hclash]
  rfl

end Edits

/-- **Edits rebuild exactly the path to their target.** An edit of an identifier that no node
has changes nothing. Otherwise the program is a context around the first node with the
identifier, and each edit puts its result into that same context, so every command off the path
is the command of the program: removal drops the node and rebuilds its ancestors; an update puts
the node with its new parameter there and rebuilds the ancestors and the node; an insertion into
a block rebuilds the ancestors and the block, whose old body is kept, and builds the inserted
subtree; an insertion at the top level builds only the inserted subtree. -/
theorem edits_rebuild_path [ToString ι] (p : Program ι) (x : ι) :
    (x ∉ p.ids → p.remove x = none ∧ ∀ v, p.update x v = none) ∧
    (x ∈ p.ids → ∃ (ctx : Context ι) (c : Command ι),
      p = ctx.fill [c] ∧ c.id = x ∧ x ∉ ctx.before) ∧
    (∀ (ctx : Context ι) (c : Command ι), p = ctx.fill [c] → c.id = x → x ∉ ctx.before →
      p.remove x = some ⟨ctx.fill [], ctx.ancestors⟩ ∧
      (∀ v, p.update x v = some ⟨ctx.fill [c.setValue v.asInt], ctx.ancestors ++ [x]⟩) ∧
      ∀ n b cmd, c = .block x n b → p.clash cmd = none →
        p.insert (some x) cmd =
          .ok ⟨ctx.fill [.block x n (b ++ [cmd])], ctx.ancestors ++ x :: cmd.ids⟩) ∧
    ∀ cmd, p.clash cmd = none → p.insert none cmd = .ok ⟨p ++ [cmd], cmd.ids⟩ := by
  refine ⟨fun hx => ⟨?_, fun v => ?_⟩, exists_first x p, ?_, insert_top p⟩
  · simp [remove, replace_of_not_mem x _ p hx]
  · simp [update, replace_of_not_mem x _ p hx]
  · rintro ctx c rfl hc hx
    refine ⟨remove_fill hc hx, update_fill hc hx, ?_⟩
    rintro n b cmd rfl hclash
    exact insert_fill hx cmd hclash

/-- Removing a leaf two blocks deep rebuilds the two blocks and nothing else. -/
theorem remove_two_deep :
    let p : Program String :=
      [.leaf "a" (.move .forward 1),
        .block "r" 2 [.leaf "b" (.turn .right 90), .block "s" 1 [.leaf "c" (.move .backward 2)]],
        .leaf "d" (.turn .left 45)]
    let ctx : Context String :=
      .within [.leaf "a" (.move .forward 1)] "r" 2
        (.within [.leaf "b" (.turn .right 90)] "s" 1 (.top [] []) []) [.leaf "d" (.turn .left 45)]
    let c : Command String := .leaf "c" (.move .backward 2)
    p = ctx.fill [c] ∧ c.id = "c" ∧ "c" ∉ ctx.before ∧
      p.remove "c" = some ⟨ctx.fill [], ["r", "s"]⟩ := by
  intro p ctx c
  have hp : p = ctx.fill [c] := rfl
  have hc : c.id = "c" := rfl
  have hx : "c" ∉ ctx.before := by decide
  exact ⟨hp, hc, hx, ((edits_rebuild_path p "c").2.2.1 ctx c hp hc hx).1⟩

end Program

end Turtle
