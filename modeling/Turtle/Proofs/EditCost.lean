import Turtle.Proofs.Positions
import Turtle.Proofs.Removal

/-!
# What an edit costs

An edit rebuilds only the path to the node it targets, and the positional distance compares
programs index by index, so what an edit costs is decided in the hole of its context: the
programs around the hole are the same on both sides, their blocks keep their counts, and the
positions off the path are not shifted (`Command.distanceAll_fill`).

An accepted insertion appends, so it shifts nothing and costs exactly the inserted subtree's
size. An update changes one node's parameter and nothing else, so it costs one when the new
parameter, clamped at zero for a block, differs from the old one, and nothing otherwise; an
update that finds nothing leaves the program as it is. A removal shifts the commands after the
removed one, so its cost is not fixed, but it is at least the removed subtree's size, the
number of nodes the program loses.

The main statement is `Program.edit_costs`.
-/

namespace Turtle

variable {ι : Type}

namespace Command

theorem distance_self (c : Command ι) : distance c c = 0 := by
  have h := distance_eq_encard c c
  simp only [ne_eq, not_true_eq_false, Set.ofPred_false, Set.encard_empty] at h
  exact_mod_cast h

theorem distanceAll_self (cs : List (Command ι)) : distanceAll cs cs = 0 :=
  Program.distance_self cs

/-- Two lists of one length compare apart from what follows them. -/
theorem distanceAll_append {as cs : List (Command ι)} (h : as.length = cs.length)
    (bs ds : List (Command ι)) :
    distanceAll (as ++ bs) (cs ++ ds) = distanceAll as cs + distanceAll bs ds := by
  induction as generalizing cs with
  | nil =>
    rw [List.eq_nil_of_length_eq_zero h.symm]
    simp [distanceAll, sizeAll]
  | cons a as ih =>
    cases cs with
    | nil => simp at h
    | cons c cs =>
      simp only [List.cons_append, distanceAll, ih (Nat.succ.inj h), Nat.add_assoc]

/-- Commands appended at the end cost their size. -/
theorem distanceAll_append_right (as bs : List (Command ι)) :
    distanceAll as (as ++ bs) = sizeAll bs := by
  have h := distanceAll_append (rfl : as.length = as.length) [] bs
  rw [List.append_nil] at h
  rw [h, distanceAll_self, Nat.zero_add, distanceAll]

/-- A pair of nodes costs its own difference and that of their bodies, a leaf's body being
empty. -/
theorem distance_eq (a c : Command ι) :
    distance a c = (if a.sameNode c then 0 else 1) + distanceAll a.body c.body := by
  cases a <;> rfl

/-- Two blocks of one count cost what their bodies cost. -/
theorem distance_block (i j : ι) (n : Nat) (b b' : List (Command ι)) :
    distance (.block i n b) (.block j n b') = distanceAll b b' := by
  simp [distance_eq, sameNode, kind, value, body]

/-- **An edit in a hole costs what it costs there.** The commands around the hole, at every
level, are compared with themselves, and the blocks around it keep their counts. -/
theorem distanceAll_fill (ctx : Context ι) (c c' : Command ι) :
    distanceAll (ctx.fill [c]) (ctx.fill [c']) = distance c c' := by
  induction ctx with
  | top pre post =>
    rw [Context.fill, Context.fill, List.append_assoc, List.append_assoc, distanceAll_append rfl,
      List.singleton_append, List.singleton_append, distanceAll, distanceAll_self,
      distanceAll_self]
    simp
  | within pre i n inner post ih =>
    rw [Context.fill, Context.fill, distanceAll_append rfl, distanceAll, distance_block, ih,
      distanceAll_self, distanceAll_self]
    simp

/-- A new parameter costs one exactly when it changes the node's parameter. -/
theorem distance_setValue (c : Command ι) (n : Int) :
    distance c (c.setValue n) = if (c.setValue n).value = c.value then 0 else 1 := by
  -- the node keeps its kind and its body, so only the parameter can differ
  have hsame : c.sameNode (c.setValue n) = true ↔ (c.setValue n).value = c.value := by
    simp only [sameNode, kind_setValue, beq_self_eq_true, Bool.true_and, beq_iff_eq]
    exact eq_comm
  rw [distance_eq, body_setValue, distanceAll_self, Nat.add_zero]
  by_cases h : (c.setValue n).value = c.value
  · simp [hsame.2 h, h]
  · simp [mt hsame.1 h, h]

end Command

namespace Program

/-- The program an edit leaves: the one it rebuilt, or the same program when it found nothing. -/
def edited (p : Program ι) : Option (Rebuilt ι) → Program ι
  | some r => r.program
  | none => p

variable [DecidableEq ι]

theorem distance_insert [ToString ι] {p : Program ι} {container : Option ι} {cmd : Command ι}
    {r : Rebuilt ι} (h : p.insert container cmd = .ok r) : p.distance r.program = cmd.size := by
  obtain ⟨-, ⟨-, hr⟩ | ⟨x, ctx, n, b, -, rfl, -, hr⟩⟩ := insert_eq_ok h
  · rw [hr, distance, Command.distanceAll_append_right]
    simp [Command.sizeAll]
  · rw [hr, distance, Command.distanceAll_fill, Command.distance_block,
      Command.distanceAll_append_right]
    simp [Command.sizeAll]

theorem distance_update (p : Program ι) (x : ι) (v : Datum) :
    p.distance (p.edited (p.update x v)) =
      match p.find? x with
      | some n => if (n.setValue v.asInt).value = n.value then 0 else 1
      | none => 0 := by
  cases hf : p.find? x with
  | none => rw [update_of_find?_none hf, edited, distance_self]
  | some n =>
    obtain ⟨ctx, rfl, hd, hx⟩ := exists_fill_of_find? hf
    rw [update_fill hd hx, edited, distance, Command.distanceAll_fill, Command.distance_setValue]

theorem size_le_distance_remove {p : Program ι} {x : ι} {n : Command ι}
    (h : p.find? x = some n) : n.size ≤ p.distance (p.edited (p.remove x)) := by
  obtain ⟨ctx, rfl, hd, hx⟩ := exists_fill_of_find? h
  rw [remove_fill hd hx, edited]
  dsimp only
  -- the program is the removed subtree's size larger than what is left
  have hsize := size_fill_nil ctx n
  have hbound := size_le_size_add_distance (ctx.fill [n]) (ctx.fill [])
  omega

/-- **Edits cost what they change.** An accepted insertion is exactly the inserted command's
size away from the program, wherever it appends it. An update is one away when it changes the
first match's parameter, clamped at zero for a block, and no distance away otherwise, also when
nothing has the identifier. A removal that finds its node is at least that node's subtree size
away. -/
theorem edit_costs [ToString ι] (p : Program ι) :
    (∀ container cmd r, p.insert container cmd = .ok r → p.distance r.program = cmd.size) ∧
    (∀ x v, p.distance (p.edited (p.update x v)) =
      match p.find? x with
      | some n => if (n.setValue v.asInt).value = n.value then 0 else 1
      | none => 0) ∧
    ∀ x n, p.find? x = some n → n.size ≤ p.distance (p.edited (p.remove x)) :=
  ⟨fun _ _ _ => distance_insert, distance_update p, fun _ _ => size_le_distance_remove⟩

/-- Inserting a two-node block into a block costs two, an update that keeps a count costs
nothing, and removing a two-node block costs at least two. -/
theorem edit_costs_on_block :
    let p : Program String :=
      [.block "r" 2 [.leaf "a" (.move .forward 1)], .leaf "b" (.turn .right 90)]
    let cmd : Command String := .block "s" 3 [.leaf "c" (.turn .left 45)]
    let n : Command String := .block "r" 2 [.leaf "a" (.move .forward 1)]
    p.find? "r" = some n ∧
      (∃ r, p.insert (some "r") cmd = .ok r ∧ p.distance r.program = 2) ∧
      p.distance (p.edited (p.update "r" (.int 2))) = 0 ∧
      2 ≤ p.distance (p.edited (p.remove "r")) := by
  intro p cmd n
  have hfind : p.find? "r" = some n := by simp [p, n, find?, Command.id]
  obtain ⟨r, hr⟩ : ∃ r, p.insert (some "r") cmd = .ok r := ⟨_, rfl⟩
  have hcosts := edit_costs p
  refine ⟨hfind, ⟨r, hr, hcosts.1 _ _ _ hr⟩, ?_, hcosts.2.2 "r" n hfind⟩
  rw [hcosts.2.1, hfind]
  decide

end Program

end Turtle
