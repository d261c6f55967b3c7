import Mathlib.Data.List.Basic
import Mathlib.Data.List.Induction
import Mathlib.Logic.Relation

/-!
# Labelled machines and their runs

A *machine* takes one event at a time: `step s e` is the state after the event, or `none` when
the event cannot happen in `s`. A *run* is a list of events; a *guarded path* is a run whose
every step meets a condition on the state before it and on the event.

- `Machine.Path.invariant`: what every guarded step preserves, every guarded path preserves.
- `Machine.Path.simulates`: when each guarded step is matched by a step of an abstract
  machine, each guarded path is matched by a path of the abstract machine.
- `Machine.Path.invariant_trace`: the same for an invariant between the state and what the steps so
  far have shown.
- `Along`: a condition on each input of a list and on the inputs before it, for systems whose
  state is a function of their inputs.
-/

/-- A machine over states `σ` and events `ι`. -/
structure Machine (σ ι : Type*) where
  init : σ → Prop
  step : σ → ι → Option σ

namespace Machine

variable {σ τ ι κ : Type*} (M : Machine σ ι)

/-- The state after a list of events, when all of them can happen. -/
def run : σ → List ι → Option σ
  | s, [] => some s
  | s, e :: es => (M.step s e).bind fun t => run t es

theorem run_cons {s t : σ} {e : ι} (h : M.step s e = some t) (es : List ι) :
    M.run s (e :: es) = M.run t es := by
  simp [run, h]

/-- A run whose steps all meet the guard `G`. -/
inductive Path (G : σ → ι → Prop) : σ → List ι → σ → Prop
  | nil (s : σ) : Path G s [] s
  | cons {s t u : σ} {e : ι} {es : List ι} :
      G s e → M.step s e = some t → Path G t es u → Path G s (e :: es) u

/-- The guard that every step meets. -/
def free : σ → ι → Prop := fun _ _ => True

variable {M} {G : σ → ι → Prop}

theorem Path.of_run {s u : σ} {es : List ι} (h : M.run s es = some u) : M.Path free s es u := by
  induction es generalizing s with
  | nil =>
    cases h
    exact .nil _
  | cons e es ih =>
    simp only [run, Option.bind_eq_some_iff] at h
    obtain ⟨t, ht, hu⟩ := h
    exact .cons trivial ht (ih hu)

/-- **Invariant rule.** What every guarded step preserves, every guarded path preserves. -/
theorem Path.invariant {I : σ → Prop} (hI : ∀ s e t, I s → G s e → M.step s e = some t → I t)
    {s u : σ} {es : List ι} (h : M.Path G s es u) (hs : I s) : I u := by
  induction h with
  | nil s => exact hs
  | cons hg ht _ ih => exact ih (hI _ _ _ hs hg ht)

/-- **Simulation rule.** Along a guarded path on which `I` is kept, an abstraction `α` that turns
each step into one step of `N` under the guard `H` turns the path into a path of `N`. -/
theorem Path.simulates {N : Machine τ κ} {H : τ → κ → Prop} {α : σ → τ} {I : σ → Prop}
    (hI : ∀ s e t, I s → G s e → M.step s e = some t → I t)
    (hα : ∀ s e t, I s → G s e → M.step s e = some t →
      ∃ a, H (α s) a ∧ N.step (α s) a = some (α t))
    {s u : σ} {es : List ι} (h : M.Path G s es u) (hs : I s) :
    ∃ as, N.Path H (α s) as (α u) := by
  induction h with
  | nil s => exact ⟨[], .nil _⟩
  | cons hg ht _ ih =>
    obtain ⟨a, ha, hst⟩ := hα _ _ _ hs hg ht
    obtain ⟨as, has⟩ := ih (hI _ _ _ hs hg ht)
    exact ⟨a :: as, .cons ha hst has⟩

/-- **Equivalence rule.** Two guards that agree wherever `I` holds have the same paths from there,
if the first one keeps `I`. -/
theorem Path.congr {H : σ → ι → Prop} {I : σ → Prop}
    (hI : ∀ s e t, I s → G s e → M.step s e = some t → I t)
    (hGH : ∀ s e t, I s → M.step s e = some t → (G s e ↔ H s e))
    {s u : σ} {es : List ι} (hs : I s) : M.Path G s es u ↔ M.Path H s es u := by
  induction es generalizing s with
  | nil =>
    constructor
    · intro h
      cases h
      exact .nil _
    · intro h
      cases h
      exact .nil _
  | cons e es ih =>
    constructor
    · intro h
      cases h with
      | cons hg ht hrest =>
        exact .cons ((hGH _ _ _ hs ht).mp hg) ht ((ih (hI _ _ _ hs hg ht)).mp hrest)
    · intro h
      cases h with
      | cons hh ht hrest =>
        have hg := (hGH _ _ _ hs ht).mpr hh
        exact .cons hg ht ((ih (hI _ _ _ hs hg ht)).mpr hrest)

/-- A run under a guard that can be checked. -/
def runUnder (M : Machine σ ι) (G : σ → ι → Prop) [∀ s e, Decidable (G s e)] :
    σ → List ι → Option σ
  | s, [] => some s
  | s, e :: es => if G s e then (M.step s e).bind fun t => runUnder M G t es else none

theorem Path.of_runUnder [∀ s e, Decidable (G s e)] {s u : σ} {es : List ι}
    (h : M.runUnder G s es = some u) : M.Path G s es u := by
  induction es generalizing s with
  | nil =>
    cases h
    exact .nil _
  | cons e es ih =>
    simp only [runUnder, Option.ite_none_right_eq_some, Option.bind_eq_some_iff] at h
    obtain ⟨hg, t, ht, hu⟩ := h
    exact .cons hg ht (ih hu)

variable {β : Type*}

variable (M) in
/-- What a run shows, when some of its steps show something. -/
def trace (f : σ → ι → Option β) : σ → List ι → List β
  | _, [] => []
  | s, e :: es => (f s e).toList ++ (M.step s e).elim [] fun t => trace f t es

theorem trace_cons (f : σ → ι → Option β) {s t : σ} {e : ι} (h : M.step s e = some t)
    (es : List ι) : M.trace f s (e :: es) = (f s e).toList ++ M.trace f t es := by
  simp [trace, h]

/-- **Invariant rule with a history.** An invariant between the state and what the run has shown so
far, kept by every guarded step. -/
theorem Path.invariant_trace {f : σ → ι → Option β} {I : σ → List β → Prop}
    (hI : ∀ s e t bs, I s bs → G s e → M.step s e = some t → I t (bs ++ (f s e).toList))
    {s u : σ} {es : List ι} (h : M.Path G s es u) {bs : List β} (hs : I s bs) :
    I u (bs ++ M.trace f s es) := by
  induction h generalizing bs with
  | nil s => simpa [trace] using hs
  | cons hg ht _ ih =>
    rw [trace_cons f ht, ← List.append_assoc]
    exact ih (hI _ _ _ _ hs hg ht)

variable (M) in
/-- The states that some run reaches from an initial state. -/
def Reachable (s : σ) : Prop := ∃ s₀ es, M.init s₀ ∧ M.run s₀ es = some s

variable (M G) in
/-- The states that a run whose steps all meet `G` reaches from an initial state. -/
def ReachableUnder (s : σ) : Prop := ∃ s₀ es, M.init s₀ ∧ M.Path G s₀ es s

theorem ReachableUnder.invariant {I : σ → Prop} (h₀ : ∀ s, M.init s → I s)
    (hI : ∀ s e t, I s → G s e → M.step s e = some t → I t) {s : σ}
    (h : M.ReachableUnder G s) : I s := by
  obtain ⟨s₀, es, hi, hp⟩ := h
  exact hp.invariant hI (h₀ s₀ hi)

end Machine

/-! ## Inputs and what came before them -/

/-- Each input of the list meets `G` after the inputs before it. -/
def Along {ι : Type*} (G : List ι → ι → Prop) (es : List ι) : Prop :=
  ∀ pre e, pre ++ [e] <+: es → G pre e

namespace Along

variable {ι : Type*} {G H : List ι → ι → Prop} {es : List ι} {e : ι}

theorem nil : Along G ([] : List ι) := by
  intro pre e h
  simp at h

theorem append_singleton : Along G (es ++ [e]) ↔ Along G es ∧ G es e := by
  constructor
  · intro h
    exact ⟨fun pre e' hpre => h pre e' (hpre.trans (List.prefix_append _ _)),
      h es e List.prefix_rfl⟩
  · intro ⟨h, he⟩ pre e' hpre
    rcases List.prefix_concat_iff.mp hpre with heq | hpre
    · obtain ⟨rfl, hsingle⟩ := List.append_inj' heq rfl
      cases hsingle
      exact he
    · exact h pre e' hpre

theorem of_prefix {es' : List ι} (h : Along G es) (hpre : es' <+: es) : Along G es' :=
  fun pre e he => h pre e (he.trans hpre)

/-- **Equivalence rule.** Two conditions that agree wherever one of them has held so far. -/
theorem congr (hGH : ∀ pre e, Along H pre → (G pre e ↔ H pre e)) : Along G es ↔ Along H es := by
  induction es using List.reverseRecOn with
  | nil => exact ⟨fun _ => nil, fun _ => nil⟩
  | append_singleton es e ih =>
    rw [append_singleton, append_singleton, ih]
    exact and_congr_right fun h => hGH es e h

end Along
