import Turtle.Proofs.Insertion

/-!
# What a removal and an update do

Both edits walk the program for the first node in pre-order with the identifier and act there;
an identifier that no node has is an edit that finds nothing, so the program stays as it is.

Said through the pre-order listing (`Program.listing`), a removal cuts out the contiguous run of
entries of the first match's subtree and nothing else, so the program loses exactly that
subtree's nodes. An update puts the first match with its new parameter back into the very same
context: the identifier, the kind and the body stay, and the parameter is the integer read from
the editor's datum, clamped at zero for a block, so that a block's count is never negative.

The main statement is `Program.remove_update_first_match`.
-/

namespace Turtle

variable {ι : Type}

namespace Action

@[simp] theorem kind_withValue (a : Action) (n : Int) : (a.withValue n).kind = a.kind := by
  rcases a with ⟨_ | _, _⟩ | ⟨_ | _, _⟩ <;> rfl

@[simp] theorem value_withValue (a : Action) (n : Int) : (a.withValue n).value = n := by
  cases a <;> rfl

end Action

namespace Command

@[simp] theorem id_setValue (c : Command ι) (n : Int) : (c.setValue n).id = c.id := by
  cases c <;> rfl

@[simp] theorem kind_setValue (c : Command ι) (n : Int) : (c.setValue n).kind = c.kind := by
  cases c <;> simp [setValue, kind]

@[simp] theorem body_setValue (c : Command ι) (n : Int) : (c.setValue n).body = c.body := by
  cases c <;> rfl

/-- A new parameter is taken as it is by a leaf and clamped at zero by a block. -/
theorem value_setValue (c : Command ι) (n : Int) :
    (c.setValue n).value = if c.isBlock then max n 0 else n := by
  cases c with
  | leaf i a => simp [setValue, value, isBlock]
  | block i m b => simp [setValue, value, isBlock]

end Command

namespace Program

/-- A filled context lists as what comes before the hole, what is in it at the hole's depth, and
what comes after. -/
theorem listing_fill (ctx : Context ι) (xs : List (Command ι)) :
    (ctx.fill xs).listing =
      ctx.listBefore 0 ++ Command.listingAll ctx.depth xs ++ ctx.listAfter 0 := by
  simp [listing, Context.listingAll_fill]

/-- Emptying a hole loses the nodes of the subtree that stood in it and no other. -/
theorem size_fill_nil (ctx : Context ι) (c : Command ι) :
    (ctx.fill []).size + c.size = (ctx.fill [c]).size := by
  simp only [size_eq_length_listing, listing_fill, Command.listingAll, List.append_nil,
    List.length_append, Command.length_listing]
  omega

variable [DecidableEq ι] {p : Program ι} {x : ι}

theorem remove_of_find?_none (h : p.find? x = none) : p.remove x = none := by
  simp [remove, replace_of_not_mem x _ p (find?_eq_none_iff.1 h)]

theorem update_of_find?_none (h : p.find? x = none) (v : Datum) : p.update x v = none := by
  simp [update, replace_of_not_mem x _ p (find?_eq_none_iff.1 h)]

/-- **Removal and update act on the first match.** With no node of the identifier, both edits
find nothing and the program stays as it is. Otherwise the first match stands in a context whose
nodes before the hole miss the identifier. A removal empties that hole: its listing is the
program's with the contiguous run of the match's subtree cut out, and it has that many nodes
less. An update, whatever the editor's datum, puts the match back into the same hole with the
same identifier, kind and body, and with the datum's integer as parameter, clamped at zero for a
block. -/
theorem remove_update_first_match (p : Program ι) (x : ι) :
    (p.find? x = none → p.remove x = none ∧ ∀ v, p.update x v = none) ∧
    ∀ n, p.find? x = some n → ∃ ctx : Context ι, p = ctx.fill [n] ∧ x ∉ ctx.before ∧
      (∃ r, p.remove x = some r ∧ r.program = ctx.fill [] ∧
        (∃ pre post d, x ∉ pre.map Entry.id ∧ p.listing = pre ++ n.listing d ++ post ∧
          r.program.listing = pre ++ post) ∧
        r.program.size + n.size = p.size) ∧
      ∀ v, ∃ r, p.update x v = some r ∧ r.program = ctx.fill [n.setValue v.asInt] ∧
        (n.setValue v.asInt).id = n.id ∧ (n.setValue v.asInt).kind = n.kind ∧
        (n.setValue v.asInt).body = n.body ∧
        (n.setValue v.asInt).value = if n.isBlock then max v.asInt 0 else v.asInt := by
  refine ⟨fun h => ⟨remove_of_find?_none h, update_of_find?_none h⟩, fun n hn => ?_⟩
  obtain ⟨ctx, rfl, hd, hx⟩ := exists_fill_of_find? hn
  refine ⟨ctx, rfl, hx, ⟨_, remove_fill hd hx, rfl, ?_, size_fill_nil ctx n⟩, fun v =>
    ⟨_, update_fill hd hx v, rfl, by simp, by simp, by simp, Command.value_setValue n _⟩⟩
  refine ⟨ctx.listBefore 0, ctx.listAfter 0, ctx.depth, ?_, ?_, ?_⟩
  · rwa [Context.map_id_listBefore]
  · simp [listing_fill]
  · simp [listing_fill, Command.listingAll]

/-- With the identifier repeated, both edits take the first match in pre-order, a block nested in
another one: the removal drops its two nodes, and an update with a negative integer puts it back
in its place with the count zero. -/
theorem edits_take_nested_first :
    let p : Program String :=
      [.block "r" 3 [.block "a" 2 [.leaf "b" (.turn .left 90)]], .block "a" 5 []]
    let n : Command String := .block "a" 2 [.leaf "b" (.turn .left 90)]
    p.find? "a" = some n ∧ (∃ r, p.remove "a" = some r ∧ r.program.size = 2) ∧
      ∃ r, p.update "a" (.int (-7)) = some r ∧ ∃ ctx : Context String,
        p = ctx.fill [n] ∧ r.program = ctx.fill [.block "a" 0 [.leaf "b" (.turn .left 90)]] := by
  intro p n
  have hfind : p.find? "a" = some n := by simp [p, n, find?, Command.id]
  obtain ⟨ctx, hp, -, ⟨r, hr, -, -, hsize⟩, hupdate⟩ :=
    (remove_update_first_match p "a").2 n hfind
  obtain ⟨r', hr', hprogram, -⟩ := hupdate (.int (-7))
  refine ⟨hfind, ⟨r, hr, ?_⟩, r', hr', ctx, hp, hprogram⟩
  have hp4 : p.size = 4 := rfl
  have hn2 : n.size = 2 := rfl
  omega

end Program

end Turtle
