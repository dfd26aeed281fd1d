import Turtle.Gallery.Layout
import Turtle.Proofs.Identifiers

/-!
# Building a layout authors the program it describes

`Layout.build` authors a program through the editor alone: each item is added to the open block,
and an item with items of its own opens the command just added, places them, and reopens the
block that was open before. Where the next command goes is a `Site`: the end of the program, or
the end of the body of a block that is the first match of its identifier, in the hole of a
context. Adding a command appends it at the site (`Workspace.add_at`), opening it makes its body
the site (`Workspace.open_at`), and reopening the block that was open goes back to the first site
with the block appended (`Workspace.reopen_at`).

So a layout whose items all name kinds, and in which only blocks have items inside, is built into
the program it describes (`Layout.Describes`): one command per item, in the items' order, with the
kind the item names, the parameter the editor gives it and the identifiers of the supply in
pre-order, the items inside an item forming the body of its block. Each item adds one snapshot,
and the top level is open at the end. The main statement is `Layout.build_describes`.
-/

namespace Turtle

/-! ## Identifiers and parameters of new commands -/

namespace IdSupply

/-- The identifier a supply hands out as its `n`-th. -/
def nth (n : Nat) : String := "gen" ++ toString n

theorem take_eq (s : IdSupply) : s.take = (nth s.next, ⟨s.next + 1⟩) := rfl

theorem nth_injective {a b : Nat} (h : nth a = nth b) : a = b := by
  have hs : toString a = toString b := (String.append_right_inj "gen").1 h
  have hd : Nat.toDigits 10 a = Nat.toDigits 10 b := by
    rw [← Nat.toList_repr, ← Nat.toList_repr]
    exact congrArg String.toList hs
  rw [← Nat.ofDigitChars_ten_toDigits (n := a), hd, Nat.ofDigitChars_ten_toDigits]

/-- Every identifier of the program was handed out before the `n`-th. -/
def Issued (n : Nat) (p : Program String) : Prop := ∀ y ∈ p.ids, ∃ k < n, y = nth k

theorem nth_not_mem {n : Nat} {p : Program String} (h : Issued n p) : nth n ∉ p.ids := by
  intro hn
  obtain ⟨k, hk, hnk⟩ := h _ hn
  exact Nat.ne_of_gt hk (nth_injective hnk)

end IdSupply

/-- The parameter the editor gives a new command of kind `k` for typed data `v`: the kind's
default when nothing is typed, else the data read as an integer, a block's count clamped at zero. -/
def Kind.editorValue (k : Kind) (v : Datum) : Int :=
  let n := match v with
    | .none => k.defaultValue
    | v => v.asInt
  if k = .repeat then max n 0 else n

namespace Kind

variable {ι : Type} (k : Kind) (v : Datum) (i : ι)

@[simp] theorem kind_create : (k.create v i).kind = k := by
  cases k <;> rfl

@[simp] theorem id_create : (k.create v i).id = i := by
  cases k <;> rfl

@[simp] theorem body_create : (k.create v i).body = [] := by
  cases k <;> rfl

/-- A new command has the parameter the editor gives its kind. -/
@[simp] theorem value_create : (k.create v i).value = k.editorValue v := by
  cases k <;> cases v <;>
    simp [create, editorValue, action?, Command.value, Action.value]

/-- A new block is empty, with the count the editor gives. -/
theorem create_repeat : Kind.repeat.create v i = .block i (Kind.repeat.editorValue v).toNat [] := by
  cases v <;> rfl

end Kind

/-! ## What a layout describes -/

namespace Layout

mutual

/-- The number of items of a layout item: itself and every item inside it. -/
def count : Layout → Nat
  | .item _ _ children => 1 + countAll children

/-- The number of items of a list of layout items, at every depth. -/
def countAll : List Layout → Nat
  | [] => 0
  | l :: ls => count l + countAll ls

end

mutual

/-- The item names a kind, only a block has items inside it, and so do the items inside. -/
def wellFormed : Layout → Bool
  | .item kind _ children =>
    match Kind.ofDatum kind with
    | .ok k => (children.isEmpty || k == .repeat) && wellFormedAll children
    | .error _ => false

/-- Every item of the list is well formed. -/
def wellFormedAll : List Layout → Bool
  | [] => true
  | l :: ls => wellFormed l && wellFormedAll ls

end

/-- `p` is the program the items describe, their nodes numbered in pre-order from `n`: one command
per item, in order, with the kind the item names, the parameter the editor gives that kind for the
item's value, the supply's `n`-th identifier, and as body the program the items inside it describe,
numbered from `n + 1`. -/
inductive Describes : Nat → List Layout → Program String → Prop
  | nil (n : Nat) : Describes n [] []
  | cons {n : Nat} {kind value : Datum} {children rest : List Layout} {c : Command String}
      {p : Program String} :
      Kind.ofDatum kind = .ok c.kind → c.value = c.kind.editorValue value → c.id = IdSupply.nth n →
      Describes (n + 1) children c.body → Describes (n + 1 + countAll children) rest p →
      Describes n (.item kind value children :: rest) (c :: p)

theorem Describes.cons_of_single {n : Nat} {l : Layout} {c : Command String} {ls : List Layout}
    {p : Program String} (hl : Describes n [l] [c]) (hp : Describes (n + l.count) ls p) :
    Describes n (l :: ls) (c :: p) := by
  cases hl with
  | cons hk hv hid hbody _ =>
    refine .cons hk hv hid hbody ?_
    simpa [count, Nat.add_assoc] using hp

theorem ids_eq_cons {ι : Type} (c : Command ι) : c.ids = c.id :: Command.idsAll c.body := by
  cases c <;> simp [Command.ids, Command.id, Command.body, Command.idsAll]

/-- **The identifiers of the program a layout describes are the supply's, in pre-order.** -/
theorem Describes.ids {n : Nat} {ls : List Layout} {p : Program String} (h : Describes n ls p) :
    p.ids = (List.range' n (countAll ls)).map IdSupply.nth := by
  induction h with
  | nil n => rfl
  | @cons n kind value children rest c p _ _ hid _ _ ihbody ihrest =>
    -- the item's own identifier, then its body's, then the rest's: one run of numbers
    have hlen : countAll (.item kind value children :: rest) = countAll children + countAll rest + 1 := by
      simp only [countAll, count]
      omega
    simp only [Program.ids] at ihbody ihrest ⊢
    rw [Command.idsAll, ids_eq_cons, hid, ihbody, ihrest, hlen, List.range'_succ, List.map_cons,
      List.cons_append, ← List.map_append, List.range'_append_1]

/-- A command is fixed by its identifier, kind, parameter and body. -/
theorem eq_of_label {ι : Type} {c d : Command ι} (hid : c.id = d.id) (hk : c.kind = d.kind)
    (hv : c.value = d.value) (hb : c.body = d.body) : c = d := by
  cases c with
  | leaf i a =>
    cases d with
    | leaf j b =>
      simp only [Command.id, Command.kind, Command.value] at hid hk hv
      subst hid
      cases a with
      | move w n => cases b with
        | move w' n' => cases w <;> cases w' <;> simp_all [Action.kind, Action.value]
        | turn w' n' => cases w <;> cases w' <;> simp_all [Action.kind]
      | turn w n => cases b with
        | move w' n' => cases w <;> cases w' <;> simp_all [Action.kind]
        | turn w' n' => cases w <;> cases w' <;> simp_all [Action.kind, Action.value]
    | block j m b' => cases a <;> rename_i w _ <;> cases w <;> simp [Command.kind, Action.kind] at hk
  | block i n b =>
    cases d with
    | leaf j a => cases a <;> rename_i w _ <;> cases w <;> simp [Command.kind, Action.kind] at hk
    | block j m b' =>
      simp only [Command.id, Command.value, Command.body, Int.ofNat_inj] at hid hv hb
      simp [hid, hv, hb]

/-- **A layout describes at most one program.** -/
theorem Describes.unique {n : Nat} {ls : List Layout} {p q : Program String}
    (hp : Describes n ls p) (hq : Describes n ls q) : p = q := by
  induction hp generalizing q with
  | nil n => cases hq; rfl
  | cons hk hv hid _ _ ihbody ihrest =>
    cases hq with
    | cons hk' hv' hid' hbody' hrest' =>
      -- both commands name the kind of the item, so they agree node for node
      have hkind := Except.ok.inj (hk.symm.trans hk')
      rw [ihrest hrest', eq_of_label (hid.trans hid'.symm) hkind (by rw [hv, hv', hkind])
        (ihbody hbody')]

end Layout

/-! ## Where the editor adds commands -/

/-- Where the editor adds commands: the end of the program, or the end of the body of block `x`
of count `n`, standing in the hole of `ctx`. -/
inductive Site where
  | top (p : Program String)
  | inside (ctx : Context String) (x : String) (n : Nat) (b : Program String)

namespace Site

/-- The program around the site. -/
def program : Site → Program String
  | top p => p
  | inside ctx x n b => ctx.fill [.block x n b]

/-- The block open at the site; none at the top level. -/
def active : Site → Option String
  | top _ => none
  | inside _ x _ _ => some x

/-- The site after commands were added there. -/
def append : Site → Program String → Site
  | top p, cs => top (p ++ cs)
  | inside ctx x n b, cs => inside ctx x n (b ++ cs)

/-- The context of the place where the next command goes. -/
def hole : Site → Context String
  | top p => .top p []
  | inside ctx x n b => ctx.openAt x n b

/-- The open block is the first match of its identifier. -/
def Valid : Site → Prop
  | top _ => True
  | inside ctx x _ _ => x ∉ ctx.before

variable (s : Site) (cs ds : Program String)

theorem fill_hole : s.hole.fill cs = (s.append cs).program := by
  cases s with
  | top p => simp [hole, append, program, Context.fill]
  | inside ctx x n b => simp [hole, append, program, Context.fill_openAt]

@[simp] theorem append_nil : s.append [] = s := by
  cases s <;> simp [append]

@[simp] theorem append_append : (s.append cs).append ds = s.append (cs ++ ds) := by
  cases s <;> simp [append]

@[simp] theorem active_append : (s.append cs).active = s.active := by
  cases s <;> rfl

@[simp] theorem valid_append : (s.append cs).Valid ↔ s.Valid := by
  cases s <;> rfl

theorem program_eq_fill_hole : s.program = s.hole.fill [] := by
  rw [fill_hole, append_nil]

/-- The identifiers of a site after commands were added: those of the site and of the commands. -/
theorem mem_ids_append {y : String} :
    y ∈ (s.append cs).program.ids ↔ y ∈ s.program.ids ∨ y ∈ Command.idsAll cs := by
  rw [← fill_hole, program_eq_fill_hole, Program.ids, Program.ids, Context.idsAll_fill,
    Context.idsAll_fill]
  simp only [List.mem_append, Command.idsAll, List.not_mem_nil, or_false]
  tauto

theorem before_hole_subset {y : String} (hy : y ∈ s.hole.before) : y ∈ s.program.ids := by
  rw [program_eq_fill_hole, Program.ids, Context.idsAll_fill]
  exact List.mem_append_left _ (List.mem_append_left _ hy)

end Site

theorem IdSupply.Issued.append {n m : Nat} {s : Site} {cs : Program String}
    (h : IdSupply.Issued n s.program) (hcs : ∀ y ∈ Command.idsAll cs, ∃ k < m, y = IdSupply.nth k)
    (hnm : n ≤ m) : IdSupply.Issued m (s.append cs).program := by
  intro y hy
  rcases (s.mem_ids_append cs).1 hy with hy | hy
  · obtain ⟨k, hk, rfl⟩ := h y hy
    exact ⟨k, Nat.lt_of_lt_of_le hk hnm, rfl⟩
  · exact hcs y hy

/-! ## The editor at a site -/

namespace Workspace

/-- A session whose program and open block are those of a valid site. -/
structure At (w : Workspace) (s : Site) : Prop where
  program : w.program = s.program
  active : w.active = s.active
  valid : s.Valid

variable {w : Workspace} {s : Site}

@[simp] theorem setActive_program (w : Workspace) (c : Option String) :
    (w.setActive c).1.program = w.program := by
  cases c with
  | none => rfl
  | some x => by_cases hx : opens w.program x = true <;> simp [Workspace.setActive, hx]

@[simp] theorem setActive_snapshots (w : Workspace) (c : Option String) :
    (w.setActive c).1.snapshots = w.snapshots := by
  cases c with
  | none => rfl
  | some x => by_cases hx : opens w.program x = true <;> simp [Workspace.setActive, hx]

theorem setActive_of_opens {x : String} (hx : opens w.program x = true) :
    (w.setActive (some x)).1.active = some x := by
  simp [Workspace.setActive, hx]

/-- The block `x` in the hole of `ctx`, with `x` not before it, is opened by its identifier. -/
theorem opens_fill {ctx : Context String} {x : String} {n : Nat} {b : Program String}
    (hx : x ∉ ctx.before) : opens (ctx.fill [.block x n b]) x = true :=
  opens_iff.2 ⟨x, n, b, Program.find?_fill ctx rfl hx⟩

/-- The open block of a valid site is opened by its identifier, whatever was added at the site. -/
theorem opens_active (hs : s.Valid) (cs : Program String) {x : String} (hx : s.active = some x) :
    opens (s.append cs).program x = true := by
  cases s with
  | top p => cases hx
  | inside ctx y n b =>
    cases hx
    exact opens_fill hs

/-- Inserting a fresh command into the open block of a valid site appends it at the site. -/
theorem insert_site (hs : s.Valid) {c : Command String} (hclash : s.program.clash c = none) :
    ∃ r : Rebuilt String, s.program.insert s.active c = .ok r ∧ r.program = (s.append [c]).program := by
  cases s with
  | top p => exact ⟨_, Program.insert_top p c hclash, rfl⟩
  | inside ctx x n b => exact ⟨_, Program.insert_fill hs c hclash, rfl⟩

/-- A session whose program is that of a valid site, with commands added there, opens the site's
block. -/
theorem setActive_site (hs : s.Valid) {cs : Program String} (hw : w.program = (s.append cs).program) :
    (w.setActive s.active).1.active = s.active := by
  cases hx : s.active with
  | none => rfl
  | some x => exact setActive_of_opens (hw ▸ opens_active hs cs hx)

/-- **Inserting a fresh command at a session's site appends it there**, the open block staying
open, and adds one snapshot. -/
theorem insert_at (h : w.At s) {c : Command String} (hclash : w.program.clash c = none) :
    (w.insert c w.active).2 = true ∧ (w.insert c w.active).1.At (s.append [c]) ∧
      (w.insert c w.active).1.snapshots.size = w.snapshots.size + 1 := by
  obtain ⟨r, hins, hr⟩ := insert_site h.valid (h.program ▸ hclash)
  rw [h.active, insert_of_ok (h.program ▸ hins), commit_some]
  refine ⟨rfl, ⟨hr, ?_, (Site.valid_append _ _).2 h.valid⟩, by simp⟩
  -- the block that was open is still opened in the program after the insertion
  show w.active.filter (opens r.program) = _
  rw [h.active, hr, Site.active_append]
  cases hx : s.active with
  | none => rfl
  | some x => simp [Option.filter, opens_active h.valid [c] hx]

/-- **Adding a command of a kind at a site** creates it with the supply's next identifier, appends
it at the site and adds one snapshot, when the supply's identifiers are fresh. -/
theorem add_at (h : w.At s) {n : Nat} (hfresh : IdSupply.Issued n w.program) (value : Datum)
    {kind : Datum} {k : Kind} (hk : Kind.ofDatum kind = .ok k) :
    ∃ w', w.add kind value ⟨n⟩ = .ok (some (k.create value (IdSupply.nth n)), w', ⟨n + 1⟩) ∧
      w'.At (s.append [k.create value (IdSupply.nth n)]) ∧ w'.snapshots.size = w.snapshots.size + 1 := by
  have hc : create kind value none ⟨n⟩ = .ok (k.create value (IdSupply.nth n), ⟨n + 1⟩) := by
    simp only [create, hk]
    rfl
  have hclash : w.program.clash (k.create value (IdSupply.nth n)) = none := by
    rw [Program.clash_eq_none_iff, Kind.ids_create]
    intro y hy
    rw [List.mem_singleton.1 hy]
    exact IdSupply.nth_not_mem hfresh
  obtain ⟨hok, hat, hsize⟩ := insert_at h hclash
  exact ⟨_, by rw [add_of_create hc, hok]; rfl, hat, hsize⟩

/-- **Opening a block just added** makes the end of its body the site. -/
theorem open_at {g : String} {m : Nat} (h : w.At (s.append [.block g m []]))
    (hg : g ∉ s.program.ids) :
    (w.setActive (some g)).1.At (.inside s.hole g m []) := by
  have hvalid : g ∉ s.hole.before := fun hb => hg (s.before_hole_subset hb)
  have hprog : w.program = s.hole.fill [.block g m []] := by rw [h.program, Site.fill_hole]
  refine ⟨by simp [hprog, Site.program], ?_, hvalid⟩
  rw [setActive_of_opens (hprog ▸ opens_fill hvalid)]
  rfl

/-- **Reopening the block that was open** goes back to the site the block was added at, with the
block and its body appended there. -/
theorem reopen_at {g : String} {m : Nat} {body : Program String} (hs : s.Valid)
    (h : w.At (.inside s.hole g m body)) :
    (w.setActive s.active).1.At (s.append [.block g m body]) := by
  have hprog : w.program = (s.append [.block g m body]).program := by
    rw [h.program, ← Site.fill_hole]
    rfl
  refine ⟨by simp [hprog], ?_, (Site.valid_append _ _).2 hs⟩
  rw [setActive_site hs hprog, Site.active_append]

end Workspace

/-! ## Building a layout -/

namespace Layout

open Workspace

theorem wellFormed_item {kind value : Datum} {children : List Layout}
    (h : wellFormed (.item kind value children) = true) :
    ∃ k, Kind.ofDatum kind = .ok k ∧ (children ≠ [] → k = .repeat) ∧
      wellFormedAll children = true := by
  cases hk : Kind.ofDatum kind with
  | error e => simp [wellFormed, hk] at h
  | ok k =>
    simp only [wellFormed, hk, Bool.and_eq_true, Bool.or_eq_true, List.isEmpty_iff,
      beq_iff_eq] at h
    exact ⟨k, rfl, fun hne => h.1.resolve_left hne, h.2⟩

/-- The identifiers a layout's program takes are the next ones of the supply. -/
theorem Describes.ids_issued {n : Nat} {ls : List Layout} {p : Program String}
    (h : Describes n ls p) : ∀ y ∈ Command.idsAll p, ∃ k < n + countAll ls, y = IdSupply.nth k := by
  intro y hy
  rw [← Program.ids, h.ids] at hy
  obtain ⟨k, hk, rfl⟩ := List.mem_map.1 hy
  exact ⟨k, (List.mem_range'_1.1 hk).2, rfl⟩

mutual

/-- **Placing an item at a site** adds the command it describes there, with its items inside it,
using the supply's next identifiers in pre-order and one snapshot per item. -/
theorem place_at : ∀ (l : Layout) (w : Workspace) (s : Site) (n : Nat), l.wellFormed = true →
    w.At s → IdSupply.Issued n w.program →
    ∃ c w', place w ⟨n⟩ l = .ok (w', ⟨n + l.count⟩) ∧ Describes n [l] [c] ∧
      w'.At (s.append [c]) ∧ w'.snapshots.size = w.snapshots.size + l.count
  | .item kind value children, w, s, n, hl, hw, hfresh => by
    obtain ⟨k, hk, hrep, hchildren⟩ := wellFormed_item hl
    obtain ⟨w₁, hadd, hw₁, hsize₁⟩ := add_at hw hfresh value hk
    have hfresh₁ : IdSupply.Issued (n + 1) w₁.program := by
      rw [hw₁.program]
      refine IdSupply.Issued.append (hw.program ▸ hfresh) (fun y hy => ?_) (Nat.le_succ n)
      simp only [Command.idsAll, Kind.ids_create, List.append_nil, List.mem_singleton] at hy
      exact ⟨n, Nat.lt_succ_self n, hy⟩
    cases children with
    | nil =>
      -- a leaf, or a block without items: the command as created
      refine ⟨_, w₁, ?_, .cons (by simpa using hk) (by simp) (by simp) (by simpa using .nil (n + 1))
        (.nil _), hw₁, by simpa [count, countAll] using hsize₁⟩
      simp [place, hadd, count, countAll]
    | cons l ls =>
      -- a block: open it, place its items, and reopen the block that was open
      have hk' : k = .repeat := hrep (List.cons_ne_nil l ls)
      subst hk'
      rw [Kind.create_repeat] at hadd hw₁
      have hopen := open_at hw₁ (fun hg => IdSupply.nth_not_mem hfresh (hw.program ▸ hg))
      obtain ⟨body, w₂, hplace, hbody, hw₂, hsize₂⟩ := placeAll_at (l :: ls) _ _ (n + 1)
        hchildren hopen (by rwa [setActive_program])
      have hend := reopen_at hw.valid (by simpa [Site.append] using hw₂)
      refine ⟨.block (IdSupply.nth n) (Kind.repeat.editorValue value).toNat body, _, ?_,
        .cons (by simpa [Command.kind] using hk) ?_ rfl hbody (.nil _), hend, ?_⟩
      · simp only [place, hadd, bind, Except.bind, List.isEmpty_cons, Bool.false_eq_true,
          ↓reduceIte, Command.id, pure, Except.pure, hplace, hw.active, count, Nat.add_assoc]
      · simp [Command.value, Command.kind, Kind.editorValue]
      · simp only [setActive_snapshots, hsize₂, hsize₁, count]
        omega

/-- **Placing items at a site** adds the program they describe there. -/
theorem placeAll_at : ∀ (ls : List Layout) (w : Workspace) (s : Site) (n : Nat),
    wellFormedAll ls = true → w.At s → IdSupply.Issued n w.program →
    ∃ p w', placeAll w ⟨n⟩ ls = .ok (w', ⟨n + countAll ls⟩) ∧ Describes n ls p ∧
      w'.At (s.append p) ∧ w'.snapshots.size = w.snapshots.size + countAll ls
  | [], w, s, n, _, hw, _ => ⟨[], w, by simp [placeAll, countAll]; rfl, .nil n,
      by simpa using hw, by simp [countAll]⟩
  | l :: ls, w, s, n, hls, hw, hfresh => by
    simp only [wellFormedAll, Bool.and_eq_true] at hls
    obtain ⟨c, w₁, hplace, hc, hw₁, hsize₁⟩ := place_at l w s n hls.1 hw hfresh
    have hfresh₁ : IdSupply.Issued (n + l.count) w₁.program := by
      rw [hw₁.program]
      refine IdSupply.Issued.append (hw.program ▸ hfresh) (fun y hy => ?_) (Nat.le_add_right n _)
      simpa [countAll] using hc.ids_issued y hy
    obtain ⟨p, w₂, hrest, hp, hw₂, hsize₂⟩ := placeAll_at ls w₁ _ _ hls.2 hw₁ hfresh₁
    refine ⟨c :: p, w₂, ?_, hc.cons_of_single hp, by simpa using hw₂, ?_⟩
    · simp only [placeAll, hplace, bind, Except.bind, hrest]
      simp [countAll, Nat.add_assoc]
    · simp only [hsize₂, hsize₁, countAll]
      omega

end

/-- **Building a layout authors the program it describes.** When every item of the layout names a
kind and only blocks have items inside, building it with a new supply succeeds with the program the
layout describes, which is the only one it describes: the items' tree and order, each node with the
kind its item names and the parameter the editor gives it, the identifiers `gen1`, `gen2`, … in
pre-order. The supply is then past the last item; each item added one snapshot to the first, and
the top level is open. -/
theorem build_describes (items : List Layout) (h : wellFormedAll items = true) :
    ∃ w, build items {} = .ok (w, ⟨1 + countAll items⟩) ∧ Describes 1 items w.program ∧
      (∀ p, Describes 1 items p → p = w.program) ∧
      w.program.ids = (List.range' 1 (countAll items)).map IdSupply.nth ∧
      w.snapshots.size = 1 + countAll items ∧ w.active = none := by
  have hstart : (Workspace.start []).At (.top []) := ⟨rfl, rfl, trivial⟩
  obtain ⟨p, w, hbuild, hp, hw, hsize⟩ :=
    placeAll_at items _ _ 1 h hstart fun y hy => absurd hy List.not_mem_nil
  have hprog : w.program = p := by simpa [Site.append, Site.program] using hw.program
  refine ⟨w, hbuild, hprog ▸ hp, fun q hq => hprog ▸ hq.unique hp, hprog ▸ hp.ids, ?_,
    by simpa [Site.append, Site.active] using hw.active⟩
  rw [hsize]
  rfl

/-- The flower of the gallery: a block of six rounds around a block of four and a turn. -/
theorem build_flower_describes :
    let flower := [block 6 [block 4 [leaf "FORWARD" 2, leaf "TURN_RIGHT" 90], leaf "TURN_RIGHT" 60]]
    wellFormedAll flower = true ∧
    ∃ w, build flower {} = .ok (w, ⟨1 + countAll flower⟩) ∧ Describes 1 flower w.program ∧
      (∀ p, Describes 1 flower p → p = w.program) ∧
      w.program.ids = (List.range' 1 (countAll flower)).map IdSupply.nth ∧
      w.snapshots.size = 1 + countAll flower ∧ w.active = none := by
  intro flower
  have hflower : wellFormedAll flower = true := by decide
  exact ⟨hflower, build_describes flower hflower⟩

end Layout

end Turtle
