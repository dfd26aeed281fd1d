import Turtle.Command.Build

/-!
# Editing a program

Programs are never changed in place: an edit builds a new program that shares every command off
the path from the top level to the edited node. `Program.replace` is that walk: it finds the first
node in pre-order with a given identifier, replaces it by what a function makes of it, and
rebuilds the blocks on the way. Its answer, a `Rebuilt`, lists the identifiers of the nodes built
anew; no answer means no node has the identifier, and the program stays as it was.

* `Program.remove` drops the first match with its subtree;
* `Program.update` gives the first match a new parameter read from editor data, clamped at zero
  for a block;
* `Program.insert` appends a command to the top level or to the body of the block that is the
  first match of a container identifier. It refuses a command with an identifier already in the
  program (checked first), a first match that is not a block, and a container that is not there.
-/

namespace Turtle

/-- A program rebuilt by an edit, with the identifiers of the nodes built anew, in pre-order. -/
structure Rebuilt (ι : Type) where
  program : Program ι
  fresh : List ι

variable {ι : Type} [DecidableEq ι]

namespace Program

variable {m : Type → Type} [Monad m]

mutual

/-- Replaces the first node with identifier `x` in a command's tree by `f`, which gives the
commands standing in its place and the identifiers it built anew. -/
def replaceIn (x : ι) (f : Command ι → m (List (Command ι) × List ι)) :
    Command ι → m (Option (Rebuilt ι))
  | .leaf i a =>
    if i = x then do
      let (new, fresh) ← f (.leaf i a)
      pure (some ⟨new, fresh⟩)
    else pure none
  | .block i n b =>
    if i = x then do
      let (new, fresh) ← f (.block i n b)
      pure (some ⟨new, fresh⟩)
    else do
      match ← replace x f b with
      | some r => pure (some ⟨[.block i n r.program], i :: r.fresh⟩)
      | none => pure none

/-- Replaces the first node in pre-order with identifier `x` by `f`; `none` when there is none. -/
def replace (x : ι) (f : Command ι → m (List (Command ι) × List ι)) :
    Program ι → m (Option (Rebuilt ι))
  | [] => pure none
  | c :: cs => do
    match ← replaceIn x f c with
    | some r => pure (some ⟨r.program ++ cs, r.fresh⟩)
    | none =>
      match ← replace x f cs with
      | some r => pure (some ⟨c :: r.program, r.fresh⟩)
      | none => pure none

end

/-- The program without the first node with identifier `x` and its subtree. -/
def remove (p : Program ι) (x : ι) : Option (Rebuilt ι) :=
  Id.run (replace x (fun _ => pure ([], [])) p)

end Program

/-- The command with parameter `n`, a block's count clamped at zero. -/
def Command.setValue : Command ι → Int → Command ι
  | .leaf i a, n => .leaf i (a.withValue n)
  | .block i _ b, n => .block i (max n 0).toNat b

namespace Program

/-- The program with the first node with identifier `x` given the parameter read from `v`. -/
def update (p : Program ι) (x : ι) (v : Datum) : Option (Rebuilt ι) :=
  let n := v.asInt
  Id.run (replace x (fun c => pure ([c.setValue n], [c.id])) p)

variable [ToString ι]

/-- The first identifier of the command's tree, in pre-order, that the program already has. -/
def clash (p : Program ι) (c : Command ι) : Option ι :=
  let present := p.ids
  c.ids.find? (present.contains ·)

/-- The program with `c` appended to the top level (`none`) or to the body of the block that is
the first match of the container's identifier. -/
def insert (p : Program ι) (container : Option ι) (c : Command ι) : Except Fault (Rebuilt ι) := do
  if let some d := p.clash c then throw (.duplicateId (toString d))
  match container with
  | none => pure ⟨p ++ [c], c.ids⟩
  | some x =>
    let append : Command ι → Except Fault (List (Command ι) × List ι)
      | .block i n b => pure ([.block i n (b ++ [c])], i :: c.ids)
      | .leaf _ a => throw (.notAContainer (toString x) a.kind)
    match ← replace x append p with
    | some r => pure r
    | none => throw (.containerNotFound (toString x))

end Program

end Turtle
