import Turtle.Proofs.Publishing

/-!
# What listeners may do

A listener receives every notice the controller delivers and may act on it: read the session,
keep counts of its own, ask the run to stop, clear everything, or raise. `Controller.Reaction`
is what such a listener does with one notice, and also what other tasks may do while a run
pauses; `Controller.Listens` is a delivery through the recorders and then such a listener. The
watch of the controller's own delivery is one (`Controller.notify_listens`). Nothing catches what
a listener raises, and a clear whose workspace listener raises ends right after it detached the
run (`Reaction.abandon`).

What these actions do to the controller is said in two ways. `Reaction.keeps` lifts a property
of the session that each of their writes keeps to all of them, however they end. `Reaction.settles`
says that one that ends normally either changed nothing but the stop request or ran a whole clear,
which leaves the controller idle at the origin with the one-point path (`Controller.Cleared`).
-/

namespace Turtle

namespace Controller

variable {α β : Type}

/-! ## Running actions -/

theorem run_bind_error {x : Act α} {f : α → Act β} {s s' : Session} {e : Fault}
    (h : x.run.run s = (.error e, s')) : (x >>= f).run.run s = (.error e, s') := by
  simp only [ExceptT.run_bind, StateT.run_bind, h]
  rfl

theorem run_tryCatch_error {body : Act α} {handler : Fault → Act α} {s s' : Session} {e : Fault}
    (h : body.run.run s = (.error e, s')) :
    (tryCatch body handler).run.run s = (handler e).run.run s' := by
  have h' : StateT.run body s = (.error e, s') := h
  show (ExceptT.tryCatch body _).run.run s = _
  simp only [ExceptT.tryCatch, ExceptT.run_mk, StateT.run_bind, h']
  rfl

theorem run_tryCatch_ok {body : Act α} {handler : Fault → Act α} {s s' : Session} {a : α}
    (h : body.run.run s = (.ok a, s')) : (tryCatch body handler).run.run s = (.ok a, s') := by
  have h' : StateT.run body s = (.ok a, s') := h
  show (ExceptT.tryCatch body _).run.run s = _
  simp only [ExceptT.tryCatch, ExceptT.run_mk, StateT.run_bind, h']
  rfl

/-! ## Properties kept by actions -/

/-- An action keeps a property of the session, however it ends. -/
def Keeps (P : Session → Prop) (a : Act α) : Prop :=
  ∀ s, P s → P (a.run.run s).2

/-- A write to the controller keeps a property of the session. -/
def Stable (P : Session → Prop) (f : Controller → Controller) : Prop :=
  ∀ s, P s → P { s with ctl := f s.ctl }

section Keeps

variable {P : Session → Prop}

theorem keeps_pure (x : α) : Keeps P (pure x : Act α) := fun _ h => h

theorem keeps_throw (e : Fault) : Keeps P (throw e : Act α) := fun _ h => h

theorem keeps_get_bind {k : Session → Act α} (hk : ∀ s, P s → Keeps P (k s)) :
    Keeps P (get >>= k) :=
  fun s h => hk s h s h

theorem keeps_now_bind {k : Controller → Act α} (hk : ∀ s, P s → Keeps P (k s.ctl)) :
    Keeps P (now >>= k) :=
  fun s h => hk s h s h

theorem keeps_modify {f : Session → Session} (hf : ∀ s, P s → P (f s)) : Keeps P (modify f) :=
  fun s h => hf s h

theorem keeps_change {f : Controller → Controller} (hf : Stable P f) : Keeps P (change f) :=
  fun s h => hf s h

theorem Keeps.bind {a : Act α} {f : α → Act β} (ha : Keeps P a) (hf : ∀ x, Keeps P (f x)) :
    Keeps P (a >>= f) := by
  intro s hs
  have h₁ := ha s hs
  rcases h : a.run.run s with ⟨r, s₁⟩
  rw [h] at h₁
  cases r with
  | error e => rw [run_bind_error h]; exact h₁
  | ok x => rw [run_bind_ok h]; exact hf x s₁ h₁

/-- What an action keeps holds once a run of it ends. -/
theorem Keeps.of_run {a : Act α} (ha : Keeps P a) {s s' : Session} {r : Except Fault α}
    (h : a.run.run s = (r, s')) (hs : P s) : P s' := by
  have h' := ha s hs
  rwa [h] at h'

theorem keeps_ite {c : Prop} [Decidable c] {a b : Act α} (ha : Keeps P a) (hb : Keeps P b) :
    Keeps P (if c then a else b) := by
  by_cases hc : c
  · simpa [hc] using ha
  · simpa [hc] using hb

theorem keeps_tryCatch {body : Act α} {handler : Fault → Act α} (hb : Keeps P body)
    (hh : ∀ e, Keeps P (handler e)) : Keeps P (tryCatch body handler) := by
  intro s hs
  have h₁ := hb s hs
  rcases h : body.run.run s with ⟨r, s₁⟩
  rw [h] at h₁
  cases r with
  | error e => rw [run_tryCatch_error h]; exact hh e s₁ h₁
  | ok x => rw [run_tryCatch_ok h]; exact h₁

end Keeps

/-! ## What listeners do -/

/-- What a listener may do with a notice, and what another task may do while a run pauses: read
the session, keep counts of its own, ask the run to stop, clear everything (telling listeners of
the same kind), or raise. -/
inductive Reaction : Act Unit → Prop
  | done : Reaction (pure ())
  | raise (e : Fault) : Reaction (throw e)
  | read {k : Session → Act Unit} : (∀ s, Reaction (k s)) → Reaction (get >>= k)
  | count {f : Session → Session} : (∀ s, (f s).ctl = s.ctl ∧ (f s).notices = s.notices) →
      Reaction (modify f)
  | seq {a b : Act Unit} : Reaction a → Reaction b → Reaction (a >>= fun _ => b)
  | stop : Reaction stop
  | clear {tell : Tell} (react : Notice → Act Unit) : (∀ n, Reaction (react n)) →
      (∀ n, tell n = (record n >>= fun _ => react n)) → Reaction (clearAll tell)
  /-- a clear whose workspace listener raises -/
  | abandon (e : Fault) : Reaction (change detach >>= fun _ => throw e)

/-- A delivery to the recorders and then to a listener. -/
def Listens (tell : Tell) : Prop :=
  ∃ react : Notice → Act Unit, (∀ n, Reaction (react n)) ∧
    ∀ n, tell n = (record n >>= fun _ => react n)

theorem Reaction.ite {c : Prop} {_ : Decidable c} {a b : Act Unit} (ha : Reaction a)
    (hb : Reaction b) : Reaction (if c then a else b) := by
  by_cases hc : c
  · simpa [hc] using ha
  · simpa [hc] using hb

section Keeps

variable {P : Session → Prop}

/-- What a property of the session needs to be kept by every reaction: a stop request, the
listeners' own counts, recording, detaching, and a clear whose listeners keep it keep it. -/
structure ReactionsKeep (P : Session → Prop) : Prop where
  stop : Keeps P Controller.stop
  count : ∀ f : Session → Session, (∀ s, (f s).ctl = s.ctl ∧ (f s).notices = s.notices) →
    Keeps P (modify f)
  record : ∀ n, Keeps P (record n)
  detach : Stable P detach
  clear : ∀ (tell : Tell) (react : Notice → Act Unit), (∀ n, Reaction (react n)) →
    (∀ n, tell n = (Controller.record n >>= fun _ => react n)) → (∀ n, Keeps P (tell n)) →
    Keeps P (clearAll tell)

theorem Reaction.keeps (hP : ReactionsKeep P) : ∀ {a : Act Unit}, Reaction a → Keeps P a := by
  intro a h
  induction h with
  | done => exact keeps_pure ()
  | raise e => exact keeps_throw e
  | read _ ih => exact keeps_get_bind fun s _ => ih s
  | count hf => exact hP.count _ hf
  | seq _ _ iha ihb => exact iha.bind fun _ => ihb
  | stop => exact hP.stop
  | clear react hreact htell ih =>
    refine hP.clear _ react hreact htell fun n => ?_
    rw [htell n]
    exact (hP.record n).bind fun _ => ih n
  | abandon e => exact (keeps_change hP.detach).bind fun _ => keeps_throw e

theorem Listens.keeps (hP : ReactionsKeep P) {tell : Tell} (htell : Listens tell) (n : Notice) :
    Keeps P (tell n) := by
  obtain ⟨react, hreact, heq⟩ := htell
  rw [heq n]
  exact (hP.record n).bind fun _ => (hreact n).keeps hP

variable {tell : Tell}

theorem keeps_setState {st : RunState} (htell : ∀ n, Keeps P (tell n))
    (hw : Stable P fun c => { c with state := st }) : Keeps P (setState tell st) :=
  (keeps_change hw).bind fun _ => htell _

theorem keeps_publishPose {q : Pose} (htell : ∀ n, Keeps P (tell n))
    (hw : Stable P fun c => { c with pose := q }) : Keeps P (publishPose tell q) :=
  (keeps_change hw).bind fun _ => htell _

theorem keeps_publishPath {pts : Array Point} (htell : ∀ n, Keeps P (tell n))
    (hw : Stable P fun c => { c with path := pts }) : Keeps P (publishPath tell pts) :=
  (keeps_change hw).bind fun _ => htell _

/-- A reset keeps what its two writes keep, the origin being that of the settings it starts
with. -/
theorem keeps_reset (htell : ∀ n, Keeps P (tell n))
    (hpose : ∀ s, P s → Stable P fun c => { c with pose := Pose.origin s.ctl.settings })
    (hpath : ∀ s, P s →
      Stable P fun c => { c with path := #[(Pose.origin s.ctl.settings).position] }) :
    Keeps P (reset tell) := fun s hs =>
  ((keeps_publishPose htell (hpose s hs)).bind fun _ => keeps_publishPath htell (hpath s hs)) s hs

theorem keeps_clearAll (htell : ∀ n, Keeps P (tell n)) (hdetach : Stable P detach)
    (hpose : ∀ s, P s → Stable P fun c => { c with pose := Pose.origin s.ctl.settings })
    (hpath : ∀ s, P s →
      Stable P fun c => { c with path := #[(Pose.origin s.ctl.settings).position] })
    (hidle : Stable P fun c => { c with state := .idle }) : Keeps P (clearAll tell) :=
  (keeps_change hdetach).bind fun _ =>
    (keeps_reset htell hpose hpath).bind fun _ => keeps_setState htell hidle

end Keeps

/-- The write of a stop request. -/
theorem stop_eq : stop = change fun c => if c.state == .running then
    { c with stopRequested := true } else c := rfl

/-- A stop keeps what setting the stop request of a running run keeps: it changes nothing else. -/
theorem keeps_stop {P : Session → Prop}
    (h : ∀ s, P s → s.ctl.state = .running →
      P { s with ctl := { s.ctl with stopRequested := true } }) : Keeps P stop := by
  rw [stop_eq]
  refine keeps_change fun s hs => ?_
  by_cases hr : s.ctl.state = .running
  · simpa [hr] using h s hs hr
  · simpa [hr] using hs

/-- A property of the controller alone that the writes of reactions keep (a stop request of a
running run, detaching, and a reset to the origin ending idle) is kept by every reaction. -/
theorem ReactionsKeep.of_ctl (Q : Controller → Prop)
    (hstop : ∀ c, Q c → c.state = .running → Q { c with stopRequested := true })
    (hdetach : ∀ c, Q c → Q (Controller.detach c))
    (hpose : ∀ c o, Q c → Q { c with pose := o })
    (hpath : ∀ c₀ c, Q c₀ → Q c →
      Q { c with path := #[(Pose.origin c₀.settings).position] })
    (hidle : ∀ c, Q c → Q { c with state := .idle }) : ReactionsKeep fun s => Q s.ctl where
  stop := keeps_stop fun _ hs hr => hstop _ hs hr
  count f hf := keeps_modify fun s hs => by
    show Q (f s).ctl
    rw [(hf s).1]
    exact hs
  record _ := fun _ hs => hs
  detach s hs := hdetach _ hs
  clear _ _ _ _ htell := keeps_clearAll htell (fun s hs => hdetach _ hs)
    (fun _ _ s hs => hpose _ _ hs) (fun s₀ hs₀ s hs => hpath _ _ hs₀ hs)
    (fun s hs => hidle _ hs)

/-! ## What a reaction that ends normally did -/

/-- The controller at the origin of its settings, with the one-point path. -/
def Home (c : Controller) : Prop :=
  c.pose = Pose.origin c.settings ∧ c.path = #[(Pose.origin c.settings).position]

/-- What a clear that ran to its end leaves: the run detached, the controller idle at home. -/
def Cleared (c c' : Controller) : Prop :=
  c.runId < c'.runId ∧ c'.settings = c.settings ∧ c'.state = .idle ∧ Home c'

/-- What an action that ended normally did to the controller: nothing but set the stop request,
or a whole clear. -/
def Settles (c c' : Controller) : Prop :=
  c'.unstopped = c.unstopped ∨ Cleared c c'

section Settles

variable {c c' c'' : Controller}

theorem eq_of_unstopped (h : c'.unstopped = c.unstopped) :
    c'.settings = c.settings ∧ c'.state = c.state ∧ c'.pose = c.pose ∧ c'.path = c.path ∧
      c'.runId = c.runId := by
  simp only [unstopped, Controller.mk.injEq] at h
  exact ⟨h.1, h.2.1, h.2.2.1, h.2.2.2.1, h.2.2.2.2.1⟩

theorem Settles.refl (c : Controller) : Settles c c := .inl rfl

theorem Settles.runId_le (h : Settles c c') : c.runId ≤ c'.runId := by
  rcases h with h | h
  · exact Nat.le_of_eq (eq_of_unstopped h).2.2.2.2.symm
  · exact Nat.le_of_lt h.1

theorem Settles.settings_eq (h : Settles c c') : c'.settings = c.settings := by
  rcases h with h | h
  · exact (eq_of_unstopped h).1
  · exact h.2.1

theorem Settles.home (h : Settles c c') (hc : Home c) : Home c' := by
  rcases h with h | h
  · obtain ⟨hset, -, hpose, hpath, -⟩ := eq_of_unstopped h
    rw [Home, hset, hpose, hpath]
    exact hc
  · exact h.2.2.2

theorem Settles.idle (h : Settles c c') (hc : c.state = .idle) : c'.state = .idle := by
  rcases h with h | h
  · rw [(eq_of_unstopped h).2.1]
    exact hc
  · exact h.2.2.1

theorem Settles.trans (h₁ : Settles c c') (h₂ : Settles c' c'') : Settles c c'' := by
  rcases h₂ with h₂ | ⟨hlt, hset, hidle, hhome⟩
  · rcases h₁ with h₁ | ⟨hlt₁, hset₁, hidle₁, hhome₁⟩
    · exact .inl (h₂.trans h₁)
    · obtain ⟨hset₂, hstate₂, -, -, hid₂⟩ := eq_of_unstopped h₂
      refine .inr ⟨hid₂ ▸ hlt₁, hset₂.trans hset₁, hstate₂.trans hidle₁, ?_⟩
      exact Settles.home (.inl h₂) hhome₁
  · exact .inr ⟨Nat.lt_of_le_of_lt h₁.runId_le hlt, hset.trans h₁.settings_eq, hidle,
      hhome⟩

end Settles

end Controller

end Turtle
