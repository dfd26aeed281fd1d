import Turtle.Proofs.Insertion

/-!
# Identifiers stay distinct

No edit checks the identifiers of a whole program again; they stay distinct because each edit
changes them in a way that keeps them so. A removal drops exactly the identifiers of the removed
subtree (`Program.remove_ids`), an update keeps them all in place (`Program.update_ids`), and an
accepted insertion adds exactly those of the inserted command (`Program.insert_ids`), having
checked each of them against the program, though not against each other.

So in a session every action keeps the identifiers of the program distinct
(`Workspace.act_ids_nodup`), as long as no command whose own tree repeats an identifier is
inserted (`Workspace.Action.KeepsDistinct`): a created command is a single node, and a clear
leaves nothing. The main statement is `Workspace.ids_stay_distinct`.
-/

namespace Turtle

variable {ι : Type}

namespace Command

theorem idsAll_append (a b : List (Command ι)) : idsAll (a ++ b) = idsAll a ++ idsAll b := by
  induction a with
  | nil => rfl
  | cons c cs ih => simp [idsAll, ih]

@[simp] theorem ids_setValue (c : Command ι) (n : Int) : (c.setValue n).ids = c.ids := by
  cases c <;> rfl

end Command

/-- A command the editor creates is a single node. -/
@[simp] theorem Kind.ids_create (k : Kind) (v : Datum) (i : ι) : (k.create v i).ids = [i] := by
  cases k <;> rfl

/-- A command created without a given identifier is a single node named by the supply. -/
theorem ids_of_create {kind value : Datum} {ids ids' : IdSupply} {c : Command String}
    (hc : create kind value none ids = .ok (c, ids')) : c.ids = [ids.take.1] := by
  simp only [create] at hc
  cases hk : Kind.ofDatum kind with
  | error e => simp [hk] at hc
  | ok k =>
    simp only [hk] at hc
    cases hc
    exact Kind.ids_create k value _

namespace Program

variable [DecidableEq ι] {p : Program ι} {x : ι}

/-- **A removal drops the removed subtree's identifiers and no other.** The node removed is the
first match. -/
theorem remove_ids {r : Rebuilt ι} (h : p.remove x = some r) :
    ∃ d, p.find? x = some d ∧ (d.ids ++ r.program.ids).Perm p.ids := by
  by_cases hx : x ∈ p.ids
  · obtain ⟨ctx, d, rfl, hd, hbefore⟩ := exists_first x p hx
    rw [remove_fill hd hbefore] at h
    cases h
    refine ⟨d, find?_fill ctx hd hbefore, ?_⟩
    simp only [ids, Context.idsAll_fill, Command.idsAll, List.append_nil, List.append_assoc]
    exact List.perm_append_comm_assoc _ _ _
  · simp [remove, replace_of_not_mem x _ p hx] at h

/-- An update keeps every identifier in place. -/
theorem update_ids {v : Datum} {r : Rebuilt ι} (h : p.update x v = some r) :
    r.program.ids = p.ids := by
  by_cases hx : x ∈ p.ids
  · obtain ⟨ctx, d, rfl, hd, hbefore⟩ := exists_first x p hx
    rw [update_fill hd hbefore] at h
    cases h
    simp [ids, Context.idsAll_fill, Command.idsAll]
  · simp [update, replace_of_not_mem x _ p hx] at h

/-- **An accepted insertion adds the inserted command's identifiers**, none of which the program
had. -/
theorem insert_ids [ToString ι] {container : Option ι} {c : Command ι} {r : Rebuilt ι}
    (h : p.insert container c = .ok r) :
    r.program.ids.Perm (p.ids ++ c.ids) ∧ ∀ y ∈ c.ids, y ∉ p.ids := by
  obtain ⟨hclash, ⟨-, hr⟩ | ⟨x, ctx, n, b, -, rfl, -, hr⟩⟩ := insert_eq_ok h
  · refine ⟨?_, clash_eq_none_iff.1 hclash⟩
    rw [hr]
    simp [ids, Command.idsAll_append, Command.idsAll]
  · refine ⟨?_, clash_eq_none_iff.1 hclash⟩
    rw [hr]
    simp only [ids, Context.idsAll_fill, Command.idsAll, Command.ids, Command.idsAll_append,
      List.append_nil, List.append_assoc, List.cons_append]
    -- the command's identifiers move from the end of the block's body to the very end
    exact ((List.perm_append_comm.append_left _).cons x).append_left _

/-- An insertion into a program with distinct identifiers keeps them distinct exactly when the
inserted command's own tree has distinct identifiers. -/
theorem insert_ids_nodup [ToString ι] {container : Option ι} {c : Command ι} {r : Rebuilt ι}
    (hp : p.ids.Nodup) (h : p.insert container c = .ok r) :
    r.program.ids.Nodup ↔ c.ids.Nodup := by
  obtain ⟨hperm, hfresh⟩ := insert_ids h
  rw [hperm.nodup_iff, List.nodup_append]
  exact ⟨fun h => h.2.1, fun hc => ⟨hp, hc, fun a ha b hb hab => hfresh b hb (hab ▸ ha)⟩⟩

end Program

namespace Workspace

/-- An action that puts no identifier into a program twice: any action but the insertion of a
command whose own tree repeats an identifier. -/
def Action.KeepsDistinct : Action → Prop
  | .insert c _ => c.ids.Nodup
  | _ => True

instance (a : Action) : Decidable a.KeepsDistinct :=
  match a with
  | .insert c _ => inferInstanceAs (Decidable c.ids.Nodup)
  | .add _ _ | .remove _ | .update _ _ | .setActive _ | .clear => inferInstanceAs (Decidable True)

variable {w : Workspace} {ids : IdSupply}

/-- What an accepted insertion of a command with distinct identifiers builds from a program with
distinct identifiers has distinct identifiers. -/
theorem inserted_ids_nodup {p q : Program String} {container : Option String} {c : Command String}
    (hp : p.ids.Nodup) (hc : c.ids.Nodup)
    (hb : (p.insert container c).toOption.map (·.program) = some q) : q.ids.Nodup := by
  cases hins : p.insert container c with
  | error e => simp [hins, Except.toOption] at hb
  | ok r =>
    simp only [hins, Except.toOption, Option.map_some, Option.some.injEq] at hb
    subst hb
    exact (Program.insert_ids_nodup hp hins).2 hc

/-- What an action's edit builds from a program with distinct identifiers has distinct
identifiers. -/
theorem built_ids_nodup {a : Action} {q : Program String} (hw : w.program.ids.Nodup)
    (ha : a.KeepsDistinct) (hb : a.built w ids = some q) : q.ids.Nodup := by
  cases a with
  | add kind value =>
    simp only [Action.built] at hb
    split at hb
    · rename_i c _ hc
      -- a created command is a single node
      exact inserted_ids_nodup hw (by simp [ids_of_create hc]) hb
    · cases hb
  | insert c into => exact inserted_ids_nodup hw ha hb
  | remove x =>
    obtain ⟨r, hrem, rfl⟩ := Option.map_eq_some_iff.1 hb
    obtain ⟨d, -, hperm⟩ := Program.remove_ids hrem
    exact (List.nodup_append.1 (hperm.nodup_iff.2 hw)).2.1
  | update x v =>
    obtain ⟨r, hup, rfl⟩ := Option.map_eq_some_iff.1 hb
    rwa [Program.update_ids hup]
  | setActive _ => cases hb
  | clear =>
    simp only [Action.built] at hb
    split at hb
    · cases hb
    · cases hb
      exact List.nodup_nil

/-- **One action keeps the identifiers distinct**, unless it inserts a command whose own tree
repeats one. -/
theorem act_ids_nodup (hw : Reachable w) (hn : w.program.ids.Nodup) (ids : IdSupply) {a : Action}
    (ha : a.KeepsDistinct) : (w.act ids a).1.program.ids.Nodup := by
  cases hb : a.built w ids with
  | some q =>
    rw [(act_of_built hb).1]
    exact built_ids_nodup hn ha hb
  | none =>
    -- nothing built: the session is as it was, or only its open block changed
    rcases act_of_not_built hw.sound hb with h | ⟨c, rfl, h⟩
    · rwa [h]
    · simpa [Workspace.act, h] using hn

/-- The identifiers stay distinct along every run of actions that keep them distinct. -/
theorem run_ids_nodup :
    ∀ (τs : List (IdSupply × Action)) (w : Workspace), Reachable w → w.program.ids.Nodup →
      (∀ τ ∈ τs, τ.2.KeepsDistinct) →
      (τs.foldl (fun w τ => (w.act τ.1 τ.2).1) w).program.ids.Nodup
  | [], _, _, hn, _ => hn
  | τ :: τs, w, hw, hn, hτ =>
    run_ids_nodup τs _ (.act τ.1 τ.2 hw) (act_ids_nodup hw hn τ.1 (hτ τ (by simp)))
      fun τ' h => hτ τ' (by simp [h])

/-- **Identifiers stay distinct.** In a program whose identifiers are distinct, a removal keeps
them distinct and drops exactly the identifiers of the removed subtree, the first match; an
update keeps every identifier in place; and an accepted insertion adds exactly the identifiers
of the inserted command, which keeps them distinct exactly when the command's own tree has
distinct identifiers, since those are checked only against the program. So every session
started from a program with distinct identifiers keeps them distinct through any run of adds,
insertions of commands with distinct identifiers, removals, updates, openings and clears: each
identifier names one node. -/
theorem ids_stay_distinct [DecidableEq ι] [ToString ι] :
    (∀ (p : Program ι) (x : ι) (r : Rebuilt ι), p.ids.Nodup → p.remove x = some r →
      r.program.ids.Nodup ∧ ∃ d, p.find? x = some d ∧ (d.ids ++ r.program.ids).Perm p.ids) ∧
    (∀ (p : Program ι) (x : ι) (v : Datum) (r : Rebuilt ι), p.update x v = some r →
      r.program.ids = p.ids) ∧
    (∀ (p : Program ι) (container : Option ι) (c : Command ι) (r : Rebuilt ι), p.ids.Nodup →
      p.insert container c = .ok r →
        (r.program.ids.Nodup ↔ c.ids.Nodup) ∧ r.program.ids.Perm (p.ids ++ c.ids)) ∧
    ∀ (p : Program String) (τs : List (IdSupply × Action)), p.ids.Nodup →
      (∀ τ ∈ τs, τ.2.KeepsDistinct) →
      (τs.foldl (fun w τ => (w.act τ.1 τ.2).1) (start p)).program.ids.Nodup := by
  refine ⟨fun p x r hp hrem => ?_, fun p x v r => Program.update_ids,
    fun p container c r hp hins => ⟨Program.insert_ids_nodup hp hins, (Program.insert_ids hins).1⟩,
    fun p τs hp hτ => run_ids_nodup τs _ (.start p) hp hτ⟩
  obtain ⟨d, hfind, hperm⟩ := Program.remove_ids hrem
  exact ⟨(List.nodup_append.1 (hperm.nodup_iff.2 hp)).2.1, d, hfind, hperm⟩

/-- A session over a program that already has `gen1`: the add that would create `gen1` again is
refused, and an insertion into a block, a removal and a second add keep the identifiers
distinct. -/
theorem session_keeps_ids_distinct :
    let p : Program String :=
      [.leaf "gen1" (.move .forward 1), .block "r" 2 [.leaf "a" (.turn .right 90)]]
    let τs : List (IdSupply × Action) :=
      [({}, .add (.text "FORWARD") .none),
       ({}, .insert (.block "s" 3 [.leaf "b" (.move .backward 2)]) (.given (some "r"))),
       ({}, .remove "a"),
       ({ next := 2 }, .add (.text "TURN_LEFT") (.int 45))]
    p.ids.Nodup ∧ (∀ τ ∈ τs, τ.2.KeepsDistinct) ∧
      (τs.foldl (fun w τ => (w.act τ.1 τ.2).1) (start p)).program.ids.Nodup := by
  intro p τs
  have hp : p.ids.Nodup := by decide
  have hτ : ∀ τ ∈ τs, τ.2.KeepsDistinct := by decide
  exact ⟨hp, hτ, (ids_stay_distinct (ι := String)).2.2.2 p τs hp hτ⟩

end Workspace

end Turtle
