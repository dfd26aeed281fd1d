import Turtle.Proofs.Session

/-!
# What an insertion does

An insertion is decided in three steps: an identifier of the command's tree that the program
already has is refused first, then a container that is not there or whose first match is not a
block, and otherwise the command is appended to the commands the container addresses.

Where it lands is said through the program's pre-order listing (`Program.listing`): every node
with its depth, identifier, kind and parameter. A context lists as what comes before its hole,
the commands in the hole one level per block deeper, and what comes after it
(`Context.listingAll_fill`). An accepted insertion lists as the program with the command's own
listing put right after the last node of the container's subtree, one level below the container,
or at the end at depth zero for the top level; the command is then among what the container
addresses, last (`Program.Appended`).

The main statement is `Program.insert_outcome`.
-/

namespace Turtle

/-- A node as the pre-order listing of a program shows it. -/
structure Entry (ι : Type) where
  depth : Nat
  id : ι
  kind : Kind
  value : Int

variable {ι : Type}

namespace Command

mutual

/-- The nodes of a command's tree in pre-order, the command itself at depth `d`. -/
def listing (d : Nat) : Command ι → List (Entry ι)
  | .leaf i a => [⟨d, i, a.kind, a.value⟩]
  | .block i n b => ⟨d, i, .repeat, n⟩ :: listingAll (d + 1) b

/-- The nodes of a list of trees in pre-order, each tree's root at depth `d`. -/
def listingAll (d : Nat) : List (Command ι) → List (Entry ι)
  | [] => []
  | c :: cs => listing d c ++ listingAll d cs

end

theorem listingAll_append (d : Nat) (a b : List (Command ι)) :
    listingAll d (a ++ b) = listingAll d a ++ listingAll d b := by
  induction a with
  | nil => rfl
  | cons c cs ih => simp [listingAll, ih]

@[simp] theorem listingAll_singleton (d : Nat) (c : Command ι) : listingAll d [c] = listing d c := by
  simp [listingAll]

mutual

theorem map_id_listing (d : Nat) : ∀ c : Command ι, (listing d c).map Entry.id = c.ids
  | .leaf _ _ => rfl
  | .block _ _ b => by simp [listing, ids, map_id_listingAll (d + 1) b]

/-- The identifiers of a listing are the pre-order identifiers. -/
theorem map_id_listingAll (d : Nat) : ∀ cs : List (Command ι), (listingAll d cs).map Entry.id = idsAll cs
  | [] => rfl
  | c :: cs => by simp [listingAll, idsAll, map_id_listing d c, map_id_listingAll d cs]

end

mutual

theorem length_listing (d : Nat) : ∀ c : Command ι, (listing d c).length = c.size
  | .leaf _ _ => rfl
  | .block _ _ b => by simp [listing, size, length_listingAll (d + 1) b, Nat.add_comm]

/-- A listing has one entry per node. -/
theorem length_listingAll (d : Nat) : ∀ cs : List (Command ι), (listingAll d cs).length = sizeAll cs
  | [] => rfl
  | c :: cs => by simp [listingAll, sizeAll, length_listing d c, length_listingAll d cs]

end

end Command

/-- The pre-order listing of a program, the top level at depth zero. -/
def Program.listing (p : Program ι) : List (Entry ι) := Command.listingAll 0 p

theorem Program.size_eq_length_listing (p : Program ι) : p.size = p.listing.length :=
  (Command.length_listingAll 0 p).symm

namespace Context

/-- The number of blocks around the hole. -/
def depth : Context ι → Nat
  | top _ _ => 0
  | within _ _ _ inner _ => inner.depth + 1

/-- The listing of the nodes before the hole, the top level at depth `d`. -/
def listBefore (d : Nat) : Context ι → List (Entry ι)
  | top pre _ => Command.listingAll d pre
  | within pre i n inner _ =>
    Command.listingAll d pre ++ ⟨d, i, .repeat, n⟩ :: inner.listBefore (d + 1)

/-- The listing of the nodes after the hole, the top level at depth `d`. -/
def listAfter (d : Nat) : Context ι → List (Entry ι)
  | top _ post => Command.listingAll d post
  | within _ _ _ inner post => inner.listAfter (d + 1) ++ Command.listingAll d post

/-- **A context lists around its hole.** -/
theorem listingAll_fill (ctx : Context ι) (d : Nat) (xs : List (Command ι)) :
    Command.listingAll d (ctx.fill xs) =
      ctx.listBefore d ++ Command.listingAll (d + ctx.depth) xs ++ ctx.listAfter d := by
  induction ctx generalizing d with
  | top pre post => simp [fill, listBefore, listAfter, depth, Command.listingAll_append]
  | within pre i n inner post ih =>
    have hd : d + (inner.depth + 1) = d + 1 + inner.depth := by omega
    simp [fill, listBefore, listAfter, depth, Command.listingAll_append, Command.listingAll,
      Command.listing, ih, hd]

theorem map_id_listBefore (ctx : Context ι) (d : Nat) :
    (ctx.listBefore d).map Entry.id = ctx.before := by
  induction ctx generalizing d with
  | top pre post => simp [listBefore, before, Command.map_id_listingAll]
  | within pre i n inner post ih => simp [listBefore, before, Command.map_id_listingAll, ih]

/-- The identifiers of a filled context: those before the hole, those in it, and those after. -/
theorem idsAll_fill (ctx : Context ι) (xs : List (Command ι)) :
    Command.idsAll (ctx.fill xs) =
      ctx.before ++ Command.idsAll xs ++ (ctx.listAfter 0).map Entry.id := by
  rw [← Command.map_id_listingAll 0, listingAll_fill]
  simp [map_id_listBefore, Command.map_id_listingAll]

/-- The context of the end of the body of a block `x` standing in the hole. -/
def openAt (x : ι) (n : Nat) (b : List (Command ι)) : Context ι → Context ι
  | top pre post => within pre x n (top b []) post
  | within pre i m inner post => within pre i m (inner.openAt x n b) post

theorem fill_openAt (x : ι) (n : Nat) (b : List (Command ι)) (ctx : Context ι)
    (xs : List (Command ι)) : (ctx.openAt x n b).fill xs = ctx.fill [.block x n (b ++ xs)] := by
  induction ctx with
  | top pre post => simp [openAt, fill]
  | within pre i m inner post ih => simp [openAt, fill, ih]

theorem before_openAt (x : ι) (n : Nat) (b : List (Command ι)) (ctx : Context ι) :
    (ctx.openAt x n b).before = ctx.before ++ x :: Command.idsAll b := by
  induction ctx with
  | top pre post => simp [openAt, before]
  | within pre i m inner post ih => simp [openAt, before, ih]

end Context

namespace Program

variable [DecidableEq ι]

theorem find?_eq_none_iff {p : Program ι} {x : ι} : p.find? x = none ↔ x ∉ p.ids := by
  refine ⟨fun h hx => ?_, find?_of_not_mem p⟩
  obtain ⟨ctx, d, rfl, hd, hbefore⟩ := exists_first x _ hx
  rw [find?_fill ctx hd hbefore] at h
  cases h

/-- The first match of an identifier is the node of a context whose before misses it. -/
theorem exists_fill_of_find? {p : Program ι} {x : ι} {d : Command ι} (h : p.find? x = some d) :
    ∃ ctx : Context ι, p = ctx.fill [d] ∧ d.id = x ∧ x ∉ ctx.before := by
  obtain ⟨ctx, d', rfl, hd, hbefore⟩ := exists_first x p (mem_of_find? h)
  rw [find?_fill ctx hd hbefore] at h
  cases h
  exact ⟨ctx, rfl, hd, hbefore⟩

theorem clash_eq_none_iff {p : Program ι} {c : Command ι} :
    p.clash c = none ↔ ∀ y ∈ c.ids, y ∉ p.ids := by
  simp [clash, List.find?_eq_none]

/-- The clash reported is the first identifier of the command's tree, in pre-order, that the
program has. -/
theorem clash_eq_some_iff {p : Program ι} {c : Command ι} {d : ι} :
    p.clash c = some d ↔
      d ∈ p.ids ∧ ∃ pre post, c.ids = pre ++ d :: post ∧ ∀ y ∈ pre, y ∉ p.ids := by
  simp [clash, List.find?_eq_some_iff_append]

/-! ## The outcomes of an insertion -/

section Outcomes

variable [ToString ι] {p : Program ι} {container : Option ι} {x : ι} {c : Command ι}

theorem insert_of_clash {d : ι} (h : p.clash c = some d) :
    p.insert container c = .error (.duplicateId (toString d)) := by
  simp only [insert, h]
  rfl

theorem insert_of_not_found (hclash : p.clash c = none) (h : p.find? x = none) :
    p.insert (some x) c = .error (.containerNotFound (toString x)) := by
  simp only [insert, hclash, replace_of_not_mem x _ p (find?_eq_none_iff.1 h)]
  rfl

theorem insert_into_leaf {i : ι} {a : Action} (hclash : p.clash c = none)
    (h : p.find? x = some (.leaf i a)) :
    p.insert (some x) c = .error (.notAContainer (toString x) a.kind) := by
  obtain ⟨ctx, rfl, hd, hbefore⟩ := exists_fill_of_find? h
  simp only [insert, hclash, replace_fill x _ ctx hd hbefore]
  rfl

/-- An insertion into the first match, a block, rebuilds its context with the command appended
to the block's body. -/
theorem insert_into_block {i : ι} {n : Nat} {b : List (Command ι)} (hclash : p.clash c = none)
    (h : p.find? x = some (.block i n b)) :
    ∃ ctx : Context ι, p = ctx.fill [.block x n b] ∧ x ∉ ctx.before ∧
      p.insert (some x) c =
        .ok ⟨ctx.fill [.block x n (b ++ [c])], ctx.ancestors ++ x :: c.ids⟩ := by
  obtain ⟨ctx, rfl, hd, hbefore⟩ := exists_fill_of_find? h
  simp only [Command.id] at hd
  subst hd
  exact ⟨ctx, rfl, hbefore, insert_fill hbefore c hclash⟩

/-- An accepted insertion passed the clash check and appended the command at the top level, or
to the body of the first match of the container, a block. -/
theorem insert_eq_ok {r : Rebuilt ι} (h : p.insert container c = .ok r) :
    p.clash c = none ∧
      (container = none ∧ r.program = p ++ [c] ∨
        ∃ x ctx n b, container = some x ∧ p = Context.fill ctx [.block x n b] ∧
          x ∉ ctx.before ∧ r.program = ctx.fill [.block x n (b ++ [c])]) := by
  have hclash := clash_of_insert h
  refine ⟨hclash, ?_⟩
  cases container with
  | none =>
    rw [insert_top p c hclash] at h
    cases h
    exact .inl ⟨rfl, rfl⟩
  | some x =>
    cases hf : p.find? x with
    | none =>
      rw [insert_of_not_found hclash hf] at h
      cases h
    | some d =>
      cases d with
      | leaf i a =>
        rw [insert_into_leaf hclash hf] at h
        cases h
      | block i n b =>
        obtain ⟨ctx, hp, hbefore, hins⟩ := insert_into_block hclash hf
        rw [hins] at h
        cases h
        exact .inr ⟨x, ctx, n, b, rfl, hp, hbefore, rfl⟩

end Outcomes

/-- `q` is `p` with `cmd` appended to what `container` addresses: the command is last there, it
is the first match of its own identifier, and it added its nodes to the program's. -/
structure Appended (p q : Program ι) (container : Option ι) (cmd : Command ι) : Prop where
  children : q.childrenOf container = p.childrenOf container ++ [cmd]
  found : q.find? cmd.id = some cmd
  size : q.size = p.size + cmd.size

theorem appended_top {p : Program ι} {cmd : Command ι} (hfresh : cmd.id ∉ p.ids) :
    Appended p (p ++ [cmd]) none cmd where
  children := rfl
  found := by
    have h := find?_fill (.top p []) (d := cmd) rfl hfresh
    simpa [Context.fill] using h
  size := by
    simp [size_eq_length_listing, listing, Command.listingAll_append, Command.length_listing]

theorem appended_block {ctx : Context ι} {x : ι} {n : Nat} {b : List (Command ι)}
    {cmd : Command ι} (hx : x ∉ ctx.before) (hfresh : cmd.id ∉ ctx.before ++ x :: Command.idsAll b) :
    Appended (ctx.fill [.block x n b]) (ctx.fill [.block x n (b ++ [cmd])]) (some x) cmd where
  children := by
    rw [childrenOf, childrenOf, find?_fill (x := x) ctx (d := .block x n b) rfl hx,
      find?_fill (x := x) ctx (d := .block x n (b ++ [cmd])) rfl hx]
  found := by
    rw [← Context.fill_openAt]
    exact find?_fill _ rfl (by rwa [Context.before_openAt])
  size := by
    simp only [size_eq_length_listing, listing, Context.listingAll_fill,
      Command.listingAll_singleton, Command.listing, Command.listingAll_append, List.length_append,
      List.length_cons, Command.length_listingAll, Command.length_listing]
    omega

/-- **What an insertion does.** An identifier of the command's tree that the program already
has is refused, and the first one in pre-order is reported, whatever the container. Otherwise:
at the top level the command is appended, listed last at depth zero. For a container `x`, no
node with identifier `x` is a container not found, and a first match that is a leaf is no
container, even when a later node with identifier `x` is a block. When the first match is a
block, the command is listed right after the last node of that block's subtree, one level below
the block, and everything else is listed as before. In both accepted cases the command is last
among what the container addresses, it is the first match of its identifier, and the program
gained its nodes. -/
theorem insert_outcome [ToString ι] (p : Program ι) (container : Option ι) (cmd : Command ι) :
    (∀ pre d post, cmd.ids = pre ++ d :: post → d ∈ p.ids → (∀ y ∈ pre, y ∉ p.ids) →
      p.insert container cmd = .error (.duplicateId (toString d))) ∧
    ((∀ y ∈ cmd.ids, y ∉ p.ids) →
      (container = none → ∃ q, p.insert container cmd = .ok q ∧
        q.program.listing = p.listing ++ cmd.listing 0 ∧ Appended p q.program container cmd) ∧
      ∀ x, container = some x →
        (p.find? x = none → p.insert container cmd = .error (.containerNotFound (toString x))) ∧
        (∀ i a, p.find? x = some (.leaf i a) →
          p.insert container cmd = .error (.notAContainer (toString x) a.kind)) ∧
        (∀ i n b, p.find? x = some (.block i n b) → ∃ q, p.insert container cmd = .ok q ∧
          (∃ pre post d, x ∉ pre.map Entry.id ∧
            p.listing = pre ++ (Command.block x n b).listing d ++ post ∧
            q.program.listing = pre ++ (Command.block x n b).listing d ++ cmd.listing (d + 1) ++ post) ∧
          Appended p q.program container cmd)) := by
  refine ⟨fun pre d post hids hd hpre => insert_of_clash (clash_eq_some_iff.2 ⟨hd, pre, post, hids,
    hpre⟩), fun hnone => ?_⟩
  have hclash : p.clash cmd = none := clash_eq_none_iff.2 hnone
  have hfresh : cmd.id ∉ p.ids := hnone _ cmd.id_mem_ids
  refine ⟨?_, ?_⟩
  · rintro rfl
    refine ⟨_, insert_top p cmd hclash, ?_, appended_top hfresh⟩
    simp [listing, Command.listingAll_append]
  rintro x rfl
  refine ⟨insert_of_not_found hclash, fun i a => insert_into_leaf hclash, fun i n b hf => ?_⟩
  obtain ⟨ctx, rfl, hx, hins⟩ := insert_into_block hclash hf
  refine ⟨_, hins, ⟨ctx.listBefore 0, ctx.listAfter 0, ctx.depth, ?_, ?_, ?_⟩, ?_⟩
  · rwa [Context.map_id_listBefore]
  · simp [listing, Context.listingAll_fill]
  · simp [listing, Context.listingAll_fill, Command.listing, Command.listingAll_append]
  · -- the nodes before the block and the block's own are the program's, which miss the command
    have hsub : ctx.before ++ Command.idsAll [.block x n b] ⊆ (ctx.fill [.block x n b]).ids := by
      rw [ids, Context.idsAll_fill]
      exact List.subset_append_left _ _
    refine appended_block hx fun hmem => hfresh (hsub ?_)
    simpa [Command.idsAll, Command.ids] using hmem

/-- A container whose first match is a leaf is no container, though a later node with the same
identifier is a block. -/
theorem insert_into_leaf_named_first :
    let p : Program String := [.leaf "r" (.move .forward 1), .block "r" 2 []]
    let cmd : Command String := .leaf "c" (.turn .right 90)
    (∀ y ∈ cmd.ids, y ∉ p.ids) ∧ p.find? "r" = some (.leaf "r" (.move .forward 1)) ∧
      p.insert (some "r") cmd = .error (.notAContainer "r" .forward) := by
  intro p cmd
  have hfresh : ∀ y ∈ cmd.ids, y ∉ p.ids := by decide
  have hfind : p.find? "r" = some (.leaf "r" (.move .forward 1)) := by
    simp [p, find?, Command.id]
  exact ⟨hfresh, hfind, (((insert_outcome p (some "r") cmd).2 hfresh).2 "r" rfl).2.1 _ _ hfind⟩

end Program

end Turtle
