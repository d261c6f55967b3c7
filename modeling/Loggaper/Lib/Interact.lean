import Mathlib.Data.List.Basic

/-!
# Programs that ask an environment

A program is a tree: it is done, or it asks a question and goes on with the answer. The
environment may answer in view of everything that was said before, so a statement about every
environment covers every order of luck and failure.

- `Prog.exec`: the run against an environment, with the record of what was asked and answered.
- `Prog.wpUnder`: the weakest precondition, over the state of an *observer* that reads the record,
  while the environment keeps a contract.
- `Prog.wp_exec`: what it promises holds of the run against every such environment.
- `Prog.exec_invariant`: what every answer of the environment keeps, every run keeps.
- `Prog.Asks`: every question that the program can ask meets a condition.

Programs that can fail are `ExceptT ε (Prog A)`; the second half gives their rules.
-/

/-- A program over questions `Q`, where `A q` is the type of the answers to `q`. -/
inductive Prog {Q : Type} (A : Q → Type) (α : Type) : Type
  | done (a : α)
  | ask (q : Q) (next : A q → Prog A α)

/-- A question with the answer it got. -/
structure Exchange {Q : Type} (A : Q → Type) where
  query : Q
  answer : A query

/-- What answers: it sees the record so far and the question. -/
def Environment {Q : Type} (A : Q → Type) := List (Exchange A) → (q : Q) → A q

namespace Prog

variable {Q : Type} {A : Q → Type} {α β σ : Type}

def bind : Prog A α → (α → Prog A β) → Prog A β
  | .done a, f => f a
  | .ask q next, f => .ask q fun a => bind (next a) f

instance : Monad (Prog A) where
  pure := .done
  bind := bind

/-- Ask one question and return its answer. -/
def question (q : Q) : Prog A (A q) := .ask q .done

/-- The run against `E` after the record `h`: the result and the record at the end. -/
def exec (E : Environment A) : List (Exchange A) → Prog A α → α × List (Exchange A)
  | h, .done a => (a, h)
  | h, .ask q next => exec E (h ++ [⟨q, E h q⟩]) (next (E h q))

/-! ## Weakest preconditions over an observer -/

/-- `P` holds of the result and of what an observer has noted, whatever is answered within the
contract: `ok s x` says that the exchange `x` may happen when the observer has noted `s`. -/
def wpUnder (ok : σ → Exchange A → Prop) (note : σ → Exchange A → σ) :
    Prog A α → (α → σ → Prop) → σ → Prop
  | .done a, P, s => P a s
  | .ask q next, P, s => ∀ a, ok s ⟨q, a⟩ → wpUnder ok note (next a) P (note s ⟨q, a⟩)

variable {ok : σ → Exchange A → Prop} {note : σ → Exchange A → σ}

theorem wp_bind (p : Prog A α) (f : α → Prog A β) (P : β → σ → Prop) (s : σ) :
    wpUnder ok note (p >>= f) P s ↔ wpUnder ok note p (fun a => wpUnder ok note (f a) P) s := by
  induction p generalizing s with
  | done a => rfl
  | ask q next ih => exact forall_congr' fun a => imp_congr_right fun _ => ih a _

theorem wp_mono {P R : α → σ → Prop} (hPR : ∀ a s, P a s → R a s) {p : Prog A α} {s : σ}
    (h : wpUnder ok note p P s) : wpUnder ok note p R s := by
  induction p generalizing s with
  | done a => exact hPR a s h
  | ask q next ih => exact fun a ha => ih a (h a ha)

/-- What holds under a weak contract holds under a stronger one. -/
theorem wp_strengthen {ok' : σ → Exchange A → Prop} (hok : ∀ s x, ok' s x → ok s x)
    {P : α → σ → Prop} {p : Prog A α} {s : σ} (h : wpUnder ok note p P s) :
    wpUnder ok' note p P s := by
  induction p generalizing s with
  | done a => exact h
  | ask q next ih => exact fun a ha => ih a (h a (hok s _ ha))

theorem grows_exec (E : Environment A) (p : Prog A α) (h : List (Exchange A)) :
    h <+: (exec E h p).2 := by
  induction p generalizing h with
  | done a => exact List.prefix_rfl
  | ask q next ih => exact (List.prefix_append h _).trans (ih _ _)

/-- Adequacy for one run: the contract has to be kept on the record of this run only. -/
theorem wp_exec_along {P : α → σ → Prop} {E : Environment A} {p : Prog A α} {s₀ : σ}
    {h : List (Exchange A)}
    (hE : ∀ g q, g ++ [⟨q, E g q⟩] <+: (exec E h p).2 → ok (g.foldl note s₀) ⟨q, E g q⟩)
    (hp : wpUnder ok note p P (h.foldl note s₀)) :
    P (exec E h p).1 ((exec E h p).2.foldl note s₀) := by
  induction p generalizing h with
  | done a => exact hp
  | ask q next ih =>
    apply ih _ hE
    rw [List.foldl_append]
    exact hp _ (hE h q (grows_exec E _ _))

/-- **Adequacy.** The run against every environment that keeps the contract meets what
`wpUnder` promises. -/
theorem wp_exec {P : α → σ → Prop} {E : Environment A} {p : Prog A α} {s₀ : σ}
    (hE : ∀ h q, ok (h.foldl note s₀) ⟨q, E h q⟩) {h : List (Exchange A)}
    (hp : wpUnder ok note p P (h.foldl note s₀)) :
    P (exec E h p).1 ((exec E h p).2.foldl note s₀) :=
  wp_exec_along (fun g q _ => hE g q) hp

/-- What every exchange within the contract keeps, every program keeps. -/
theorem wp_invariant {I : σ → Prop} (hI : ∀ s x, ok s x → I s → I (note s x)) {p : Prog A α}
    {s : σ} (hs : I s) : wpUnder ok note p (fun _ => I) s := by
  induction p generalizing s with
  | done a => exact hs
  | ask q next ih => exact fun a ha => ih a (hI s _ ha hs)

/-- What every answer of the environment keeps, every run keeps. -/
theorem exec_invariant {E : Environment A} {s₀ : σ} {I : σ → Prop}
    (hI : ∀ h q, I (h.foldl note s₀) → I (note (h.foldl note s₀) ⟨q, E h q⟩))
    (p : Prog A α) {h : List (Exchange A)} (hh : I (h.foldl note s₀)) :
    I ((exec E h p).2.foldl note s₀) := by
  induction p generalizing h with
  | done a => exact hh
  | ask q next ih =>
    apply ih
    rw [List.foldl_append]
    exact hI h q hh

/-! ## What a program can ask -/

/-- Every question that the program can come to ask meets `φ`. -/
def Asks (φ : Q → Prop) : Prog A α → Prop
  | .done _ => True
  | .ask q next => φ q ∧ ∀ a, Asks φ (next a)

variable {φ : Q → Prop}

theorem Asks.bind {p : Prog A α} {f : α → Prog A β} (hp : Asks φ p) (hf : ∀ a, Asks φ (f a)) :
    Asks φ (p >>= f) := by
  induction p with
  | done a => exact hf a
  | ask q next ih => exact ⟨hp.1, fun a => ih a (hp.2 a)⟩

theorem Asks.mono {χ : Q → Prop} (hφ : ∀ q, φ q → χ q) {p : Prog A α} (hp : Asks φ p) :
    Asks χ p := by
  induction p with
  | done a => trivial
  | ask q next ih => exact ⟨hφ q hp.1, fun a => ih a (hp.2 a)⟩

/-- **Frame rule.** What every question that the program can ask keeps, the program keeps. -/
theorem wp_of_asks {I : σ → Prop} (hI : ∀ q a s, φ q → ok s ⟨q, a⟩ → I s → I (note s ⟨q, a⟩))
    {p : Prog A α} (hp : Asks φ p) {s : σ} (hs : I s) :
    wpUnder ok note p (fun _ => I) s := by
  induction p generalizing s with
  | done a => exact hs
  | ask q next ih => exact fun a ha => ih a (hp.2 a) (hI q a s hp.1 ha hs)

end Prog

/-! ## Programs that can fail -/

/-- A program that returns a value or an error. -/
abbrev Attempt {Q : Type} (ε : Type) (A : Q → Type) := ExceptT ε (Prog A)

namespace Attempt

variable {Q : Type} {A : Q → Type} {ε α β σ : Type}

/-- Ask one question; the answer is data, also when it reports a failure. -/
def question (q : Q) : Attempt ε A (A q) := ExceptT.lift (Prog.question q)

/-- Run `p` and look at its result instead of passing its error on. -/
def inspect (p : Attempt ε A α) : Attempt ε A (Except ε α) :=
  ExceptT.mk (p.run >>= fun r => pure (.ok r))

/-- Pass an outside error on, turned into an error of the program. -/
def orThrow {ε' : Type} (f : ε' → ε) : Except ε' α → Attempt ε A α
  | .ok a => pure a
  | .error e => throw (f e)

/-- A loop that ends by itself or runs out of tries: `once left again` is one round, with the
rest of the loop as `again` while rounds are left. -/
def retry (once : ℕ → Option (Attempt ε A α) → Attempt ε A α) : ℕ → Attempt ε A α
  | 0 => once 0 none
  | left + 1 => once (left + 1) (some (retry once left))

/-- The precondition under which `p` ends with `P`, on success and on failure, while the
environment keeps the contract. -/
def wpUnder (ok : σ → Exchange A → Prop) (note : σ → Exchange A → σ) (p : Attempt ε A α)
    (P : Except ε α → σ → Prop) (s : σ) : Prop :=
  Prog.wpUnder ok note p.run P s

/-- The same with every answer allowed. -/
abbrev wp (note : σ → Exchange A → σ) (p : Attempt ε A α) (P : Except ε α → σ → Prop) (s : σ) :
    Prop :=
  wpUnder (fun _ _ => True) note p P s

variable {ok : σ → Exchange A → Prop} {note : σ → Exchange A → σ} {P : Except ε α → σ → Prop}
  {s : σ}

theorem wp_mono {R : Except ε α → σ → Prop} (hPR : ∀ r s, P r s → R r s) {p : Attempt ε A α}
    (h : wpUnder ok note p P s) : wpUnder ok note p R s := Prog.wp_mono hPR h

/-- What holds whatever is answered holds under every contract. -/
theorem wp_under {p : Attempt ε A α} (h : wp note p P s) : wpUnder ok note p P s :=
  Prog.wp_strengthen (fun _ _ _ => trivial) h

/-- Sequencing: the rest runs on a value, an error passes through. -/
theorem wp_bind {p : Attempt ε A α} {f : α → Attempt ε A β} {R : Except ε β → σ → Prop}
    (h : wpUnder ok note p P s) (value : ∀ a t, P (.ok a) t → wpUnder ok note (f a) R t)
    (error : ∀ e t, P (.error e) t → R (.error e) t) : wpUnder ok note (p >>= f) R s := by
  show Prog.wpUnder ok note (p.run >>= _) R s
  rw [Prog.wp_bind]
  apply Prog.wp_mono _ h
  intro answer t ht
  cases answer with
  | error e => exact error e t ht
  | ok a => exact value a t ht

/-- Looking at a result: the rest runs on it either way. -/
theorem wp_inspect {p : Attempt ε A α} {f : Except ε α → Attempt ε A β}
    {R : Except ε β → σ → Prop} (h : wpUnder ok note p P s)
    (next : ∀ r t, P r t → wpUnder ok note (f r) R t) :
    wpUnder ok note (inspect p >>= f) R s := by
  apply wp_bind (P := fun r t => ∃ r', r = .ok r' ∧ P r' t)
  · show Prog.wpUnder ok note (p.run >>= _) _ s
    rw [Prog.wp_bind]
    exact Prog.wp_mono (fun r t ht => ⟨r, rfl, ht⟩) h
  · intro _ t ⟨r, hr, ht⟩
    cases hr
    exact next _ t ht
  · intro e t ⟨r, hr, _⟩
    cases hr

/-- An outside result: the rest runs on its value, its error passes through. -/
theorem wp_orThrow {ε' : Type} {g : ε' → ε} {r : Except ε' α} {f : α → Attempt ε A β}
    {R : Except ε β → σ → Prop} (value : ∀ a, r = .ok a → wpUnder ok note (f a) R s)
    (error : ∀ e, r = .error e → R (.error (g e)) s) :
    wpUnder ok note (orThrow g r >>= f) R s := by
  cases r with
  | error e => exact error e rfl
  | ok a => exact value a rfl

/-- Asking: the rest runs on every answer. -/
theorem wp_ask {q : Q} {f : A q → Attempt ε A β} {R : Except ε β → σ → Prop}
    (next : ∀ a, wp note (f a) R (note s ⟨q, a⟩)) : wp note (question q >>= f) R s :=
  fun a _ => next a

/-- Asking under a contract: the rest runs on every answer that the contract allows. -/
theorem wp_ask_under {q : Q} {f : A q → Attempt ε A β} {R : Except ε β → σ → Prop}
    (next : ∀ a, ok s ⟨q, a⟩ → wpUnder ok note (f a) R (note s ⟨q, a⟩)) :
    wpUnder ok note (question q >>= f) R s := next

/-- **Loop rule.** When a round keeps the promise, given that the rest of the loop does so from
every state that meets `I`, the loop keeps it. -/
theorem wp_retry {once : ℕ → Option (Attempt ε A α) → Attempt ε A α} {I : σ → Prop}
    (round : ∀ left again s, (∀ p ∈ again, ∀ t, I t → wpUnder ok note p P t) → I s →
      wpUnder ok note (once left again) P s) (left : ℕ) {s : σ} (hs : I s) :
    wpUnder ok note (retry once left) P s := by
  induction left generalizing s with
  | zero => exact round 0 none s (by simp) hs
  | succ left ih =>
    apply round (left + 1) _ s _ hs
    intro p hp t ht
    rw [← Option.mem_some.mp hp]
    exact ih ht

/-- The run of a program that can fail, from an empty record. -/
def exec (E : Environment A) (p : Attempt ε A α) : Except ε α × List (Exchange A) :=
  Prog.exec E [] p.run

theorem wp_exec {p : Attempt ε A α} (E : Environment A) (h : wp note p P s) :
    P (exec E p).1 ((exec E p).2.foldl note s) :=
  Prog.wp_exec (h := []) (fun _ _ => trivial) h

theorem wp_exec_along {p : Attempt ε A α} {E : Environment A}
    (hE : ∀ g q, g ++ [⟨q, E g q⟩] <+: (exec E p).2 → ok (g.foldl note s) ⟨q, E g q⟩)
    (h : wpUnder ok note p P s) : P (exec E p).1 ((exec E p).2.foldl note s) :=
  Prog.wp_exec_along (h := []) hE h

theorem wp_invariant {I : σ → Prop} (hI : ∀ s x, ok s x → I s → I (note s x))
    (p : Attempt ε A α) (hs : I s) : wpUnder ok note p (fun _ => I) s :=
  Prog.wp_invariant hI hs

theorem exec_invariant {E : Environment A} {I : σ → Prop}
    (hI : ∀ h q, I (h.foldl note s) → I (note (h.foldl note s) ⟨q, E h q⟩))
    (p : Attempt ε A α) (hs : I s) : I ((exec E p).2.foldl note s) :=
  Prog.exec_invariant hI p.run (h := []) hs

/-- Every question that the program can come to ask meets `φ`. -/
def Asks (φ : Q → Prop) (p : Attempt ε A α) : Prop := Prog.Asks φ p.run

variable {φ : Q → Prop}

theorem wp_of_asks {I : σ → Prop} (hI : ∀ q a s, φ q → I s → I (note s ⟨q, a⟩))
    {p : Attempt ε A α} (hp : Asks φ p) {s : σ} (hs : I s) :
    wpUnder ok note p (fun _ => I) s :=
  Prog.wp_of_asks (fun q a s hq _ hs => hI q a s hq hs) hp hs

theorem asks_mono {χ : Q → Prop} (hφ : ∀ q, φ q → χ q) {p : Attempt ε A α} (hp : Asks φ p) :
    Asks χ p :=
  Prog.Asks.mono hφ hp

theorem asks_question {q : Q} (h : φ q) : Asks φ (question q : Attempt ε A (A q)) :=
  ⟨h, fun _ => trivial⟩

theorem asks_orThrow {ε' : Type} (f : ε' → ε) (r : Except ε' α) :
    Asks φ (orThrow f r : Attempt ε A α) := by
  cases r <;> trivial

theorem asks_bind {p : Attempt ε A α} {f : α → Attempt ε A β} (hp : Asks φ p)
    (hf : ∀ a, Asks φ (f a)) : Asks φ (p >>= f) := by
  apply Prog.Asks.bind hp
  intro answer
  cases answer with
  | error e => trivial
  | ok a => exact hf a

theorem asks_inspect {p : Attempt ε A α} (hp : Asks φ p) : Asks φ (inspect p) :=
  Prog.Asks.bind hp fun _ => trivial

theorem asks_retry {once : ℕ → Option (Attempt ε A α) → Attempt ε A α}
    (round : ∀ left again, (∀ p ∈ again, Asks φ p) → Asks φ (once left again)) (left : ℕ) :
    Asks φ (retry once left) := by
  induction left with
  | zero => exact round 0 none (by simp)
  | succ left ih =>
    apply round
    intro p hp
    rw [← Option.mem_some.mp hp]
    exact ih

end Attempt
