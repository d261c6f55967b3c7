import Mathlib.Data.List.InsertIdx
import Loggaper.Manager.System

/-!
# Runs with notes

A message of the manager does not say what its sender knew. Here each message and each task in
flight carries a note, and a record beside the manager is kept up by the turns. The manager reads
none of it: forgetting the notes gives back a step of the manager (`step_forget`), and where the
notes rule out no answer every run of the manager can be noted (`run_noted`).
-/

namespace Loggaper

/-- What is noted on messages (`α`) and tasks (`β`), and recorded (`γ`). An answer to a task comes
with `ε`, and `δ` is what happens outside the manager. -/
structure Notes (α β γ δ ε : Type*) where
  start : γ → Prop
  /-- On a message from outside. -/
  posted : α
  /-- On what is left of a task. -/
  left : β
  /-- On a new task. -/
  spawned : γ → Task → β
  /-- On the message that a task sends after an answer; `none` where the answer cannot be given. -/
  answered : γ → Task → β → Answer → ε → Option α
  /-- The record after a turn. -/
  turn : γ → PositionManagerActor → TurnEnv → PositionMessage → α → γ
  outside : γ → δ → Option γ

inductive NotedEvent (δ ε : Type*)
  | inside (e : Event) (x : ε)
  | outside (d : δ)

structure Noted (α β γ : Type*) where
  actor : PositionManagerActor
  mailbox : List (PositionMessage × α)
  tasks : List (Task × β)
  log : List Effect
  record : γ

/-- The manager without the notes. -/
def Noted.forget {α β γ : Type*} (w : Noted α β γ) : System :=
  ⟨w.actor, w.mailbox.map Prod.fst, w.tasks.map Prod.fst, w.log⟩

namespace Notes

variable {α β γ δ ε : Type*} (N : Notes α β γ δ ε)

def step (w : Noted α β γ) : NotedEvent δ ε → Option (Noted α β γ)
  | .inside (.post msg) _ =>
    if msg.external then some { w with mailbox := w.mailbox ++ [(msg, N.posted)] } else none
  | .inside (.patchWallets entries) _ =>
    some { w with actor.wallets := w.actor.wallets.applyConfigPatch entries }
  | .inside (.resume i answer) x =>
    match w.tasks[i]? with
    | none => none
    | some (task, b) =>
      match task.resume answer, N.answered w.record task b answer x with
      | some (left, msg), some a =>
        some { w with
          mailbox := w.mailbox ++ [(msg, a)]
          tasks := left.toList.map (·, N.left) ++ w.tasks.eraseIdx i }
      | _, _ => none
  | .inside (.turn env) _ =>
    match w.mailbox with
    | [] => none
    | (msg, a) :: rest =>
      let o := w.actor.handle env msg
      some ⟨o.actor, rest, w.tasks ++ o.spawned.map fun t => (t, N.spawned w.record t),
        w.log ++ o.effects, N.turn w.record w.actor env msg a⟩
  | .outside d => (N.outside w.record d).map fun r => { w with record := r }

/-- A noted manager starts like the manager. -/
structure Fresh (w : Noted α β γ) : Prop where
  manager : w.forget.Fresh
  record : N.start w.record

/-- The manager with its notes. -/
def machine : Machine (Noted α β γ) (NotedEvent δ ε) where
  init := N.Fresh
  step := N.step

variable {N} {w w' : Noted α β γ} {x : ε}

theorem Fresh.mailbox (h : N.Fresh w) : w.mailbox = [] := List.map_eq_nil_iff.mp h.manager.mailbox

theorem Fresh.tasks (h : N.Fresh w) : w.tasks = [] := List.map_eq_nil_iff.mp h.manager.tasks

/-- It has no rows yet. -/
theorem Fresh.lookup (h : N.Fresh w) (key : PositionKey) :
    AList.lookup key w.actor.positions = none := by
  rw [show w.actor.positions = ∅ from h.manager.positions]
  rfl

/-! ## Steps -/

theorem step_post {msg : PositionMessage} (h : N.step w (.inside (.post msg) x) = some w') :
    msg.external = true ∧ w' = { w with mailbox := w.mailbox ++ [(msg, N.posted)] } := by
  simp only [step] at h
  split_ifs at h with hext
  exact ⟨hext, by simpa using h.symm⟩

theorem step_resume {i : ℕ} {answer : Answer}
    (h : N.step w (.inside (.resume i answer) x) = some w') :
    ∃ task b left msg a, w.tasks[i]? = some (task, b) ∧ task.resume answer = some (left, msg) ∧
      N.answered w.record task b answer x = some a ∧
      w' = { w with
        mailbox := w.mailbox ++ [(msg, a)]
        tasks := left.toList.map (·, N.left) ++ w.tasks.eraseIdx i } := by
  simp only [step] at h
  cases htask : w.tasks[i]? with
  | none => simp [htask] at h
  | some tb =>
    obtain ⟨task, b⟩ := tb
    cases hres : task.resume answer with
    | none => simp [htask, hres] at h
    | some r =>
      obtain ⟨left, msg⟩ := r
      cases hans : N.answered w.record task b answer x with
      | none => simp [htask, hres, hans] at h
      | some a =>
        refine ⟨task, b, left, msg, a, rfl, hres, hans, ?_⟩
        simpa [htask, hres, hans] using h.symm

theorem step_turn {env : TurnEnv} (h : N.step w (.inside (.turn env) x) = some w') :
    ∃ msg a rest, w.mailbox = (msg, a) :: rest ∧
      w' = ⟨(w.actor.handle env msg).actor, rest,
        w.tasks ++ (w.actor.handle env msg).spawned.map fun t => (t, N.spawned w.record t),
        w.log ++ (w.actor.handle env msg).effects, N.turn w.record w.actor env msg a⟩ := by
  simp only [step] at h
  cases hbox : w.mailbox with
  | nil => simp [hbox] at h
  | cons m rest =>
    obtain ⟨msg, a⟩ := m
    exact ⟨msg, a, rest, rfl, by simpa [hbox] using h.symm⟩

theorem step_outside {d : δ} (h : N.step w (.outside d) = some w') :
    ∃ r, N.outside w.record d = some r ∧ w' = { w with record := r } := by
  obtain ⟨r, hr, hw⟩ := Option.map_eq_some_iff.mp h
  exact ⟨r, hr, hw.symm⟩

/-! ## The notes do not matter to the manager -/

/-- **Forgetting the notes** of a step gives the step of the manager. -/
theorem step_forget {e : Event} (h : N.step w (.inside e x) = some w') :
    w.forget.step e = some w'.forget := by
  cases e with
  | post msg =>
    obtain ⟨hext, rfl⟩ := step_post h
    simp [System.step, Noted.forget, hext]
  | patchWallets entries =>
    cases h
    rfl
  | resume i answer =>
    obtain ⟨task, b, left, msg, a, htask, hres, -, rfl⟩ := step_resume h
    simp [System.step, Noted.forget, htask, hres, ← List.eraseIdx_map, Function.comp_def]
  | turn env =>
    obtain ⟨msg, a, rest, hbox, rfl⟩ := step_turn h
    simp [System.step, Noted.forget, hbox, Function.comp_def]

/-- Where the notes rule out no answer, every step of the manager can be noted. -/
theorem step_noted {s : System} {e : Event}
    (hans : ∀ r task b answer, ∃ x a, N.answered r task b answer x = some a)
    (h : w.forget.step e = some s) :
    ∃ x w', N.step w (.inside e x) = some w' ∧ w'.forget = s := by
  have hdone {x : ε} (hsome : (N.step w (.inside e x)).isSome) :
      ∃ x w', N.step w (.inside e x) = some w' ∧ w'.forget = s := by
    obtain ⟨w', hstep⟩ := Option.isSome_iff_exists.mp hsome
    exact ⟨x, w', hstep, by simpa [step_forget hstep] using h⟩
  obtain ⟨x₀, -⟩ := hans w.record (.fanOut []) N.left .go
  cases e with
  | post msg =>
    obtain ⟨hext, -⟩ := System.step_post h
    exact hdone (x := x₀) (by simp [step, hext])
  | patchWallets entries => exact hdone (x := x₀) rfl
  | resume i answer =>
    obtain ⟨task, left, msg, htask, hres, -⟩ := System.step_resume h
    have hsome : ∃ b, w.tasks[i]? = some (task, b) := by
      obtain ⟨⟨task', b⟩, htb, heq⟩ : ∃ tb, w.tasks[i]? = some tb ∧ tb.1 = task := by
        simpa [Noted.forget] using htask
      exact ⟨b, by rw [htb, ← heq]⟩
    obtain ⟨b, htb⟩ := hsome
    obtain ⟨x, a, ha⟩ := hans w.record task b answer
    exact hdone (x := x) (by simp [step, htb, hres, ha])
  | turn env =>
    obtain ⟨msg, rest, hbox, -⟩ := System.step_turn h
    have hsome : ∃ a rest, w.mailbox = (msg, a) :: rest := by
      cases hw : w.mailbox with
      | nil => simp [Noted.forget, hw] at hbox
      | cons m rest =>
        simp only [Noted.forget, hw, List.map_cons, List.cons.injEq] at hbox
        exact ⟨m.2, rest, by rw [← hbox.1]⟩
    obtain ⟨a, rest, hw⟩ := hsome
    exact hdone (x := x₀) (by simp [step, hw])

/-- **Every run can be noted**, where the notes rule out no answer. -/
theorem run_noted {s t : System} {es : List Event}
    (hans : ∀ r task b answer, ∃ x a, N.answered r task b answer x = some a)
    (hw : w.forget = s) (h : manager.run s es = some t) :
    ∃ ns w', N.machine.run w ns = some w' ∧ w'.forget = t := by
  induction es generalizing w s with
  | nil =>
    cases h
    exact ⟨[], w, rfl, hw⟩
  | cons e es ih =>
    subst hw
    obtain ⟨u, hu, hrun⟩ := Option.bind_eq_some_iff.mp h
    obtain ⟨x, v, hv, hforget⟩ := step_noted hans hu
    obtain ⟨ns, w', hrun', hw'⟩ := ih hforget hrun
    refine ⟨.inside e x :: ns, w', ?_, hw'⟩
    rw [Machine.run_cons _ hv, hrun']

/-- Every state that the manager reaches, the noted manager reaches. -/
theorem exists_noted {r₀ : γ} (hstart : N.start r₀)
    (hans : ∀ r task b answer, ∃ x a, N.answered r task b answer x = some a) {s : System}
    (h : manager.Reachable s) : ∃ w, N.machine.Reachable w ∧ w.forget = s := by
  obtain ⟨s₀, es, hfresh, hrun⟩ := h
  let w₀ : Noted α β γ := ⟨s₀.actor, [], [], s₀.log, r₀⟩
  have hw₀ : w₀.forget = s₀ := by
    show System.mk s₀.actor [] [] s₀.log = s₀
    rw [← hfresh.mailbox, ← hfresh.tasks]
  obtain ⟨ns, w, hns, hw⟩ := run_noted hans hw₀ hrun
  exact ⟨w, ⟨w₀, ns, ⟨hw₀ ▸ hfresh, hstart⟩, hns⟩, hw⟩

end Notes

end Loggaper
