import Mathlib.Data.List.Chain
import Turtle.Workspace
import Turtle.Proofs.Sharing

/-!
# What every editing session keeps

A session changes its program only through `Workspace.commit`, and an action commits exactly when
the edit under it built a new program (`Workspace.Action.built`); every refusal is decided before
that, so an action that built nothing changes nothing but, for an accepted opening, the open block
(`Workspace.act_commits_iff_built`).

What a commit checks again, the open block, and what it appends, a snapshot and a notice, make four
facts hold after every action of every session (`Workspace.Sound`, `Workspace.reachable_sound`):
the open block is a block of the program, so the editor shows its body; the last snapshot is the
program; each snapshot was built anew by an edit of the one before it (`Program.Edited`); and the
listener received every snapshot but the first, in order.

Adding a command appends it to what the editor shows (`Workspace.add_visible`): the insertion puts
the open block back in the same context with the command at the end of its body, so it is still
the first match of its identifier.
-/

namespace Turtle

/-! ## Finding a node -/

namespace Command

variable {ι : Type}

theorem id_mem_ids (c : Command ι) : c.id ∈ c.ids := by
  cases c <;> simp [id, ids]

end Command

namespace Program

variable {ι : Type} [DecidableEq ι] {x : ι}

/-- A program without the identifier has no node with it. -/
theorem find?_of_not_mem (p : Program ι) (h : x ∉ Command.idsAll p) : p.find? x = none := by
  fun_induction find? x p with
  | case1 => rfl
  | case2 c cs hc =>
    exact absurd (hc ▸ c.id_mem_ids) fun hx => h (by simp [Command.idsAll, hx])
  | case3 cs i a _ ih =>
    exact ih fun hx => h (by simp [Command.idsAll, hx])
  | case4 cs i n b d hd _ ih =>
    rw [ih fun hx => h (by simp [Command.idsAll, Command.ids, hx])] at hd
    cases hd
  | case5 cs i n b _ _ _ ih =>
    exact ih fun hx => h (by simp [Command.idsAll, hx])

theorem mem_of_find? {p : Program ι} {c : Command ι} (h : p.find? x = some c) :
    x ∈ Command.idsAll p := by
  by_contra hx
  rw [find?_of_not_mem p hx] at h
  cases h

/-- The search passes over commands that do not have the identifier. -/
theorem find?_append_of_not_mem {pre : List (Command ι)} (h : x ∉ Command.idsAll pre)
    (rest : List (Command ι)) : find? x (pre ++ rest) = find? x rest := by
  induction pre with
  | nil => rfl
  | cons c cs ih =>
    have hc : x ∉ c.ids := fun hc => h (by simp [Command.idsAll, hc])
    have hcs : x ∉ Command.idsAll cs := fun hcs => h (by simp [Command.idsAll, hcs])
    have hid : c.id ≠ x := fun hid => hc (hid ▸ c.id_mem_ids)
    cases c with
    | leaf i a => simp [find?, hid, ih hcs]
    | block i n b =>
      have hb : x ∉ Command.idsAll b := fun hb => hc (by simp [Command.ids, hb])
      simp [find?, hid, find?_of_not_mem b hb, ih hcs]

theorem find?_cons_of_id {c : Command ι} (hc : c.id = x) (cs : List (Command ι)) :
    find? x (c :: cs) = some c := by
  cases c <;> simp only [Command.id] at hc <;> simp [find?, Command.id, hc]

/-- The first match of a context's node is that node. -/
theorem find?_fill : ∀ (ctx : Context ι) {d : Command ι}, d.id = x → x ∉ ctx.before →
    (ctx.fill [d]).find? x = some d
  | .top pre post, d, hd, hx => by
    simp only [Context.before] at hx
    simp [Context.fill, find?_append_of_not_mem hx, find?_cons_of_id hd]
  | .within pre i n inner post, d, hd, hx => by
    simp only [Context.before, List.mem_append, List.mem_cons, not_or] at hx
    obtain ⟨hpre, hi, hinner⟩ := hx
    simp [Context.fill, find?_append_of_not_mem hpre, find?, Command.id, Ne.symm hi,
      find?_fill inner hd hinner]

variable [ToString ι]

/-- An accepted insertion passed the clash check. -/
theorem clash_of_insert {p : Program ι} {container : Option ι} {c : Command ι} {r : Rebuilt ι}
    (h : p.insert container c = .ok r) : p.clash c = none := by
  cases hc : p.clash c with
  | none => rfl
  | some d =>
    simp only [insert, hc] at h
    cases h

/-- **An insertion into a block keeps it the first match of its identifier**, with the command at
the end of its body. -/
theorem find?_insert {p : Program ι} {i : ι} {n : Nat} {b : List (Command ι)} {c : Command ι}
    {r : Rebuilt ι} (hfind : p.find? x = some (.block i n b)) (hins : p.insert (some x) c = .ok r) :
    r.program.find? x = some (.block x n (b ++ [c])) := by
  obtain ⟨ctx, d, rfl, hd, hx⟩ := exists_first x p (mem_of_find? hfind)
  rw [find?_fill ctx hd hx] at hfind
  cases hfind
  simp only [Command.id] at hd
  subst hd
  rw [insert_fill hx c (clash_of_insert hins)] at hins
  cases hins
  exact find?_fill ctx rfl hx

end Program

/-! ## Edits that build a new program -/

/-- `q` was built anew by an edit of `p`: an accepted insertion, a removal or an update that found
its node, or the empty program in place of one that was not empty. -/
inductive Program.Edited (p : Program String) : Program String → Prop
  | insert {container : Option String} {c : Command String} {r : Rebuilt String} :
      p.insert container c = .ok r → Program.Edited p r.program
  | remove {x : String} {r : Rebuilt String} : p.remove x = some r → Program.Edited p r.program
  | update {x : String} {v : Datum} {r : Rebuilt String} :
      p.update x v = some r → Program.Edited p r.program
  | clear : p ≠ [] → Program.Edited p []

namespace Workspace

variable {w : Workspace}

/-! ## Commits -/

theorem opens_iff {p : Program String} {x : String} :
    opens p x = true ↔ ∃ i n b, p.find? x = some (.block i n b) := by
  unfold opens
  cases p.find? x with
  | none => simp
  | some c => cases c <;> simp [Command.isBlock]

@[simp] theorem commit_none (w : Workspace) : w.commit none = (w, false) := rfl

theorem commit_some (w : Workspace) (p : Program String) :
    w.commit (some p) =
      ({ program := p
         active := w.active.filter (opens p)
         snapshots := w.snapshots.push p
         notices := w.notices.push p }, true) := by
  cases h : w.active <;> simp [commit, h, Option.filter]

/-- The session `w'` is `w` with `p` committed: `p` is the program, one snapshot and one notice of
it were appended, and the open block stays open if it is a block of `p`. -/
def Commits (w w' : Workspace) (p : Program String) : Prop :=
  w'.program = p ∧ w'.active = w.active.filter (opens p) ∧ w'.snapshots = w.snapshots.push p ∧
    w'.notices = w.notices.push p

theorem commits_commit (w : Workspace) (p : Program String) : Commits w (w.commit (some p)).1 p := by
  rw [commit_some]
  exact ⟨rfl, rfl, rfl, rfl⟩

/-! ## The invariant -/

/-- What holds of a session after every action. -/
structure Sound (w : Workspace) : Prop where
  /-- the open block is a block of the program -/
  opened : ∀ x, w.active = some x → opens w.program x = true
  /-- the last snapshot is the program -/
  last : w.snapshots.back? = some w.program
  /-- each snapshot was built anew by an edit of the one before it -/
  edited : w.snapshots.toList.IsChain Program.Edited
  /-- the listener received every snapshot but the first, in order -/
  told : w.notices.toList = w.snapshots.toList.tail

theorem Sound.start (p : Program String) : Sound (start p) where
  opened _ h := by cases h
  last := rfl
  edited := List.isChain_singleton p
  told := rfl

theorem Sound.snapshots_ne_nil (h : Sound w) : w.snapshots.toList ≠ [] := by
  intro hnil
  have hlast := h.last
  rw [← Array.getLast?_toList, hnil] at hlast
  cases hlast

/-- A commit of a program an edit built keeps a session sound. -/
theorem Sound.commit (h : Sound w) {p : Program String} (hp : Program.Edited w.program p) :
    Sound (w.commit (some p)).1 := by
  rw [commit_some]
  refine ⟨fun x hx => ?_, Array.back?_push, ?_, ?_⟩
  · -- the open block stays open only if it is a block of the new program
    rw [Option.filter_eq_some_iff] at hx
    exact hx.2
  · rw [Array.toList_push, List.isChain_append]
    refine ⟨h.edited, List.isChain_singleton p, fun q hq r hr => ?_⟩
    rw [Array.getLast?_toList, h.last] at hq
    cases hq
    cases hr
    exact hp
  · rw [Array.toList_push, Array.toList_push, List.tail_append_of_ne_nil h.snapshots_ne_nil,
      h.told]

theorem Sound.close (h : Sound w) : Sound { w with active := none } where
  opened _ hx := by cases hx
  last := h.last
  edited := h.edited
  told := h.told

theorem Sound.setActive (h : Sound w) (container : Option String) :
    Sound (w.setActive container).1 := by
  cases container with
  | none => exact h.close
  | some x =>
    by_cases hx : opens w.program x = true
    · simp only [Workspace.setActive, hx, ↓reduceIte]
      exact { h with opened := fun y hy => by cases hy; exact hx }
    · simpa [Workspace.setActive, hx] using h

theorem Sound.insert (h : Sound w) (c : Command String) (container : Option String) :
    Sound (w.insert c container).1 := by
  unfold Workspace.insert
  cases hins : w.program.insert container c with
  | error => exact h
  | ok r => exact h.commit (.insert hins)

theorem Sound.remove (h : Sound w) (x : String) : Sound (w.remove x).1 := by
  unfold Workspace.remove
  cases hrem : w.program.remove x with
  | none => exact h
  | some r => exact h.commit (.remove hrem)

theorem Sound.update (h : Sound w) (x : String) (v : Datum) : Sound (w.update x v).1 := by
  unfold Workspace.update
  cases hup : w.program.update x v with
  | none => exact h
  | some r => exact h.commit (.update hup)

theorem Sound.clear (h : Sound w) : Sound w.clear := by
  unfold Workspace.clear
  by_cases hp : w.program = []
  · simpa [hp] using h.close
  · simpa [hp] using h.close.commit (.clear hp)

theorem add_of_create {kind value : Datum} {ids ids' : IdSupply} {c : Command String}
    (hc : create kind value none ids = .ok (c, ids')) :
    w.add kind value ids =
      .ok (if (w.insert c w.active).2 then some c else none, (w.insert c w.active).1, ids') := by
  simp only [Workspace.add, hc]
  rfl

theorem add_of_create_error {kind value : Datum} {ids : IdSupply} {e : Fault}
    (hc : create kind value none ids = .error e) : w.add kind value ids = .error e := by
  simp only [Workspace.add, hc]
  rfl

/-- **One action keeps a session sound.** -/
theorem Sound.act (h : Sound w) (ids : IdSupply) : ∀ a : Action, Sound (w.act ids a).1
  | .add kind value => by
    cases hc : create kind value none ids with
    | error e => simpa [Workspace.act, add_of_create_error hc] using h
    | ok r =>
      obtain ⟨c, ids'⟩ := r
      simpa [Workspace.act, add_of_create hc] using h.insert c w.active
  | .insert c into => h.insert c (w.target into)
  | .remove x => h.remove x
  | .update x v => h.update x v
  | .setActive container => h.setActive container
  | .clear => h.clear

/-! ## Every session -/

/-- The sessions reached from a program by any actions, with any identifier supplies. -/
inductive Reachable : Workspace → Prop
  | start (p : Program String) : Reachable (start p)
  | act {w : Workspace} (ids : IdSupply) (a : Action) : Reachable w → Reachable (w.act ids a).1

/-- A run of actions from a reachable session reaches a session. -/
theorem Reachable.acts (τs : List (IdSupply × Action)) :
    ∀ {w : Workspace}, Reachable w → Reachable (τs.foldl (fun w τ => (w.act τ.1 τ.2).1) w) :=
  fun hw => List.foldlRecOn τs _ hw fun _ h τ _ => .act τ.1 τ.2 h

theorem Reachable.sound (h : Reachable w) : Sound w := by
  induction h with
  | start p => exact Sound.start p
  | act ids a _ ih => exact ih.act ids a

theorem Sound.visible (h : Sound w) :
    w.active = none ∧ w.visible = w.program ∨
      ∃ x i n b, w.active = some x ∧ w.program.find? x = some (.block i n b) ∧ w.visible = b := by
  cases ha : w.active with
  | none => exact .inl ⟨rfl, by simp [Workspace.visible, ha, Program.childrenOf]⟩
  | some x =>
    obtain ⟨i, n, b, hfind⟩ := opens_iff.1 (h.opened x ha)
    exact .inr ⟨x, i, n, b, rfl, hfind, by simp [Workspace.visible, ha, Program.childrenOf, hfind]⟩

/-! ## Which actions commit -/

/-- The program the edit under an action built anew, if it built one: the insertion into the open
block of the command `add` creates, an accepted insertion, a removal or an update that found its
node, and the empty program in place of one that was not empty. An opening edits nothing. -/
def Action.built (w : Workspace) (ids : IdSupply) : Action → Option (Program String)
  | .add kind value =>
    match create kind value none ids with
    | .ok (c, _) => (w.program.insert w.active c).toOption.map (·.program)
    | .error _ => none
  | .insert c into => (w.program.insert (w.target into) c).toOption.map (·.program)
  | .remove x => (w.program.remove x).map (·.program)
  | .update x v => (w.program.update x v).map (·.program)
  | .setActive _ => none
  | .clear => if w.program = [] then none else some []

theorem insert_of_ok {c : Command String} {container : Option String} {r : Rebuilt String}
    (h : w.program.insert container c = .ok r) :
    w.insert c container = ((w.commit (some r.program)).1, true) := by
  simp only [Workspace.insert, h, commit_some]

theorem insert_of_error {c : Command String} {container : Option String} {e : Fault}
    (h : w.program.insert container c = .error e) : w.insert c container = (w, false) := by
  simp only [Workspace.insert, h]

/-- An insertion answers whether it was accepted. -/
theorem insert_answer (c : Command String) (container : Option String) :
    (w.insert c container).2 = (w.program.insert container c).toOption.isSome := by
  cases h : w.program.insert container c with
  | error e => simp [insert_of_error h, Except.toOption]
  | ok r => simp [insert_of_ok h, Except.toOption]

theorem filter_opens_nil (a : Option String) : a.filter (opens []) = none := by
  cases a <;> simp [opens, Program.find?]

/-- **An action whose edit built a program commits it.** -/
theorem act_of_built {ids : IdSupply} {p : Program String} :
    ∀ {a : Action}, a.built w ids = some p → Commits w (w.act ids a).1 p
  | .add kind value, hb => by
    cases hc : create kind value none ids with
    | error e => simp [Action.built, hc] at hb
    | ok r =>
      obtain ⟨c, ids'⟩ := r
      cases hins : w.program.insert w.active c with
      | error e => simp [Action.built, hc, hins, Except.toOption] at hb
      | ok rb =>
        simp only [Action.built, hc, hins, Except.toOption, Option.map_some, Option.some.injEq]
          at hb
        subst hb
        simpa [Workspace.act, add_of_create hc, insert_of_ok hins] using commits_commit w rb.program
  | .insert c into, hb => by
    cases hins : w.program.insert (w.target into) c with
    | error e => simp [Action.built, hins, Except.toOption] at hb
    | ok rb =>
      simp only [Action.built, hins, Except.toOption, Option.map_some, Option.some.injEq] at hb
      subst hb
      simpa [Workspace.act, insert_of_ok hins] using commits_commit w rb.program
  | .remove x, hb => by
    cases hrem : w.program.remove x with
    | none => simp [Action.built, hrem] at hb
    | some rb =>
      simp only [Action.built, hrem, Option.map_some, Option.some.injEq] at hb
      subst hb
      simpa [Workspace.act, Workspace.remove, hrem] using commits_commit w rb.program
  | .update x v, hb => by
    cases hup : w.program.update x v with
    | none => simp [Action.built, hup] at hb
    | some rb =>
      simp only [Action.built, hup, Option.map_some, Option.some.injEq] at hb
      subst hb
      simpa [Workspace.act, Workspace.update, hup] using commits_commit w rb.program
  | .setActive _, hb => by cases hb
  | .clear, hb => by
    by_cases hp : w.program = []
    · simp [Action.built, hp] at hb
    · simp only [Action.built, hp, ↓reduceIte, Option.some.injEq] at hb
      subst hb
      -- the clear closes the open block first, as the commit of the empty program would
      refine ⟨?_, ?_, ?_, ?_⟩ <;>
        simp [Workspace.act, Workspace.clear, hp, commit_some, filter_opens_nil]

/-- **An action whose edit built nothing changes nothing**, but for an accepted opening, which
changes only the open block. -/
theorem act_of_not_built (h : Sound w) {ids : IdSupply} :
    ∀ {a : Action}, a.built w ids = none →
      (w.act ids a).1 = w ∨ ∃ c, a = .setActive c ∧ w.setActive c = ({ w with active := c }, true)
  | .add kind value, hb => by
    cases hc : create kind value none ids with
    | error e => exact .inl (by simp [Workspace.act, add_of_create_error hc])
    | ok r =>
      obtain ⟨c, ids'⟩ := r
      cases hins : w.program.insert w.active c with
      | error e => exact .inl (by simp [Workspace.act, add_of_create hc, insert_of_error hins])
      | ok rb => simp [Action.built, hc, hins, Except.toOption] at hb
  | .insert c into, hb => by
    cases hins : w.program.insert (w.target into) c with
    | error e => exact .inl (by simp [Workspace.act, insert_of_error hins])
    | ok rb => simp [Action.built, hins, Except.toOption] at hb
  | .remove x, hb => by
    have hrem : w.program.remove x = none := by simpa [Action.built] using hb
    exact .inl (by simp [Workspace.act, Workspace.remove, hrem])
  | .update x v, hb => by
    have hup : w.program.update x v = none := by simpa [Action.built] using hb
    exact .inl (by simp [Workspace.act, Workspace.update, hup])
  | .setActive none, _ => .inr ⟨none, rfl, rfl⟩
  | .setActive (some x), _ => by
    by_cases hx : opens w.program x = true
    · exact .inr ⟨some x, rfl, by simp [Workspace.setActive, hx]⟩
    · exact .inl (by simp [Workspace.act, Workspace.setActive, hx])
  | .clear, hb => by
    have hp : w.program = [] := by
      by_contra hp
      simp [Action.built, hp] at hb
    -- an empty program has no open block, so closing it changes nothing
    have ha : w.active = none := by
      cases ha : w.active with
      | none => rfl
      | some x =>
        have hx := h.opened x ha
        simp [hp, opens, Program.find?] at hx
    obtain ⟨program, active, snapshots, notices⟩ := w
    simp only at hp ha
    subst hp ha
    exact .inl rfl

/-- Inserting into the open block of a sound session keeps the block open and appends the command
to what the editor shows. -/
theorem insert_opened_visible (h : Sound w) {c : Command String} {r : Rebuilt String}
    (hins : w.program.insert w.active c = .ok r) :
    (w.commit (some r.program)).1.active = w.active ∧
      (w.commit (some r.program)).1.visible = w.visible ++ [c] := by
  rw [commit_some]
  cases ha : w.active with
  | none =>
    -- at the top level the command goes at the end of the program
    rw [ha, Program.insert_top _ c (Program.clash_of_insert hins)] at hins
    cases hins
    simp [Workspace.visible, ha, Program.childrenOf]
  | some x =>
    obtain ⟨i, n, b, hfind⟩ := opens_iff.1 (h.opened x ha)
    rw [ha] at hins
    have hfind' := Program.find?_insert hfind hins
    have hopen : opens r.program x = true := opens_iff.2 ⟨x, n, b ++ [c], hfind'⟩
    simp [Workspace.visible, ha, Program.childrenOf, Option.filter_some, hfind, hfind', hopen]

/-- **Adding appends to what the editor shows.** An `add` that answers a command created that
command from the supply, kept the open block, and appended the command to what the editor shows. -/
theorem add_visible (h : Sound w) {kind value : Datum} {ids ids' : IdSupply} {c : Command String}
    {w' : Workspace} (hadd : w.add kind value ids = .ok (some c, w', ids')) :
    create kind value none ids = .ok (c, ids') ∧ w'.active = w.active ∧
      w'.visible = w.visible ++ [c] := by
  cases hc : create kind value none ids with
  | error e =>
    rw [add_of_create_error hc] at hadd
    cases hadd
  | ok r =>
    obtain ⟨c₀, ids₀⟩ := r
    rw [add_of_create hc] at hadd
    cases hins : w.program.insert w.active c₀ with
    | error e => simp [insert_of_error hins] at hadd
    | ok rb =>
      simp only [insert_of_ok hins, ↓reduceIte, Except.ok.injEq, Prod.mk.injEq,
        Option.some.injEq] at hadd
      obtain ⟨rfl, rfl, rfl⟩ := hadd
      exact ⟨rfl, insert_opened_visible h hins⟩

theorem remove_answer (x : String) :
    (w.remove x).2 = ((w.program.remove x).map (·.program)).isSome := by
  cases h : w.program.remove x <;> simp [Workspace.remove, h, commit_some]

theorem update_answer (x : String) (v : Datum) :
    (w.update x v).2 = ((w.program.update x v).map (·.program)).isSome := by
  cases h : w.program.update x v <;> simp [Workspace.update, h, commit_some]

theorem setActive_refused {container : Option String} (h : (w.setActive container).2 = false) :
    (w.setActive container).1 = w := by
  cases container with
  | none => cases h
  | some x =>
    by_cases hx : opens w.program x = true
    · simp [Workspace.setActive, hx] at h
    · simp [Workspace.setActive, hx]

/-- A kind that is no kind fails an `add` before anything else. -/
theorem add_of_kind_error {kind value : Datum} {ids : IdSupply} {e : Fault}
    (h : Kind.ofDatum kind = .error e) : w.add kind value ids = .error e := by
  have hc : create kind value none ids = .error e := by
    simp only [create, h]
    rfl
  exact add_of_create_error hc

/-- An `add` answers its command exactly when its insertion committed. -/
theorem add_answer {kind value : Datum} {ids ids' : IdSupply} {r : Option (Command String)}
    {w' : Workspace} (hadd : w.add kind value ids = .ok (r, w', ids')) :
    (w.act ids (.add kind value)).1 = w' ∧
      r.isSome = ((Action.add kind value).built w ids).isSome := by
  cases hc : create kind value none ids with
  | error e =>
    rw [add_of_create_error hc] at hadd
    cases hadd
  | ok r₀ =>
    obtain ⟨c, ids₀⟩ := r₀
    have hadd' := hadd
    rw [add_of_create hc] at hadd'
    simp only [Except.ok.injEq, Prod.mk.injEq] at hadd'
    obtain ⟨hr, hw', -⟩ := hadd'
    refine ⟨by simp [Workspace.act, hadd], ?_⟩
    rw [← hr, insert_answer]
    cases hins : w.program.insert w.active c <;> simp [Action.built, hc, hins, Except.toOption]

/-- **An action commits exactly when its edit built a new program.** In every session the editor
reaches, an action whose edit built a program commits it: it becomes the program, one snapshot and
one notice of it are appended, and the open block stays open if it is still a block. An action
whose edit built nothing changes nothing, but for an accepted opening, which changes only the open
block: so do an insertion refused for a clash or a missing container, an `add` whose insertion was
refused, a removal or an update of an identifier no node has, a refused opening and a clear of the
empty program. Insertions, removals and updates answer whether they committed, and a refused
opening answers `false`; an `add` whose kind is no kind fails before any change, and an `add`
answers its command exactly when it committed. An `add` that answers its command created it from
the supply, kept the open block, and appended the command to what the editor shows. -/
theorem act_commits_iff_built (hw : Reachable w) (ids : IdSupply) (a : Action) :
    (∀ p, a.built w ids = some p → Commits w (w.act ids a).1 p) ∧
    (a.built w ids = none →
      (w.act ids a).1 = w ∨ ∃ c, a = .setActive c ∧ w.setActive c = ({ w with active := c }, true)) ∧
    (∀ c into, (w.insert c (w.target into)).2 = ((Action.insert c into).built w ids).isSome) ∧
    (∀ x, (w.remove x).2 = ((Action.remove x).built w ids).isSome) ∧
    (∀ x v, (w.update x v).2 = ((Action.update x v).built w ids).isSome) ∧
    (∀ c, (w.setActive c).2 = false → (w.setActive c).1 = w) ∧
    (∀ kind value e, Kind.ofDatum kind = .error e → w.add kind value ids = .error e) ∧
    (∀ kind value r w' ids', w.add kind value ids = .ok (r, w', ids') →
      (w.act ids (.add kind value)).1 = w' ∧
        r.isSome = ((Action.add kind value).built w ids).isSome) ∧
    (∀ kind value c w' ids', w.add kind value ids = .ok (some c, w', ids') →
      create kind value none ids = .ok (c, ids') ∧ w'.active = w.active ∧
        w'.visible = w.visible ++ [c]) := by
  have h := hw.sound
  refine ⟨fun p hb => act_of_built hb, act_of_not_built h, fun c into => ?_, fun x => ?_,
    fun x v => ?_, fun c => setActive_refused, fun kind value e => add_of_kind_error,
    fun kind value r w' ids' => add_answer, fun kind value c w' ids' => add_visible h⟩
  · simp [insert_answer, Action.built]
  · exact remove_answer x
  · exact update_answer x v

/-- Clearing the empty program of a new session changes nothing. -/
theorem clear_empty_unchanged :
    Reachable (start []) ∧ ((start []).act {} .clear).1 = start [] := by
  refine ⟨.start [], ?_⟩
  rcases (act_commits_iff_built (.start []) {} .clear).2.1 rfl with h | ⟨c, hc, -⟩
  · exact h
  · cases hc

/-- **Every session stays sound.** After every action of every session, the open block is none, and
the editor shows the program, or it is the first match of its identifier, a block, and the editor
shows that block's body; the last snapshot is the program; each snapshot was built anew by an edit
of the one before it; and the listener received every snapshot but the first, in order. -/
theorem reachable_sound (hw : Reachable w) :
    (w.active = none ∧ w.visible = w.program ∨
      ∃ x i n b, w.active = some x ∧ w.program.find? x = some (.block i n b) ∧ w.visible = b) ∧
    w.snapshots.back? = some w.program ∧ w.snapshots.toList.IsChain Program.Edited ∧
    w.notices.toList = w.snapshots.toList.tail := by
  have h := hw.sound
  exact ⟨h.visible, h.last, h.edited, h.told⟩

/-- A session from an empty program adds a block, opens it, adds a move into it and removes the
block: it is reachable, and so its open block is a block of the program whose body is what is
visible, or none is open and the program is visible; the last snapshot is the program, each
snapshot an edit of the one before, and the listener was told every new one. -/
theorem open_block_then_remove_sound :
    let τs : List (IdSupply × Action) :=
      [({}, .add (.text "REPEAT") .none), ({}, .setActive (some "gen1")),
       ({ next := 2 }, .add (.text "FORWARD") .none), ({}, .remove "gen1")]
    let w := τs.foldl (fun w τ => (w.act τ.1 τ.2).1) (start [])
    Reachable w ∧
      (w.active = none ∧ w.visible = w.program ∨
        ∃ x i n b, w.active = some x ∧ w.program.find? x = some (.block i n b) ∧ w.visible = b) ∧
      w.snapshots.back? = some w.program ∧ w.snapshots.toList.IsChain Program.Edited ∧
      w.notices.toList = w.snapshots.toList.tail := by
  intro τs w
  have hw : Reachable w := Reachable.acts τs (.start [])
  exact ⟨hw, reachable_sound hw⟩

end Workspace

end Turtle
