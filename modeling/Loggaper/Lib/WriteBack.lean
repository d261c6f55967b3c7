import Mathlib.Data.List.Induction

/-!
# Write-back stores

A store keeps its state in memory, marks it dirty when it changes, and writes a dirty state to a
file from time to time. The write may fail, and the process may restart and read the file again.

An update *survives* a run when a successful flush comes after it before the next restart. What
saving keeps of a state is a *view* of it, on which the updates act as well.

Main result: `View.run_spec`, the view of memory and file after a run.
-/

/-- The memory, whether it has changed since it was written, and the file. -/
structure WriteBack (σ β : Type*) where
  mem : σ
  dirty : Bool
  file : Option β

namespace WriteBack

variable {σ υ β τ : Type*}

/-- How a state changes, and how it is written and read. -/
structure Store (σ υ β : Type*) where
  apply : σ → υ → σ
  save : σ → β
  load : Option β → σ

inductive Event (υ : Type*)
  | update (u : υ)
  | flush (ok : Bool)
  | restart
  deriving DecidableEq

/-- The store when its process starts. -/
def spawn (st : Store σ υ β) (file : Option β) : WriteBack σ β := ⟨st.load file, false, file⟩

def step (st : Store σ υ β) (s : WriteBack σ β) : Event υ → WriteBack σ β
  | .update u => { s with mem := st.apply s.mem u, dirty := true }
  | .flush ok =>
    if s.dirty && ok then { s with dirty := false, file := some (st.save s.mem) } else s
  | .restart => spawn st s.file

def run (st : Store σ υ β) (s : WriteBack σ β) (es : List (Event υ)) : WriteBack σ β :=
  es.foldl (step st) s

/-! ## Survivors -/

/-- Whether an update survives what comes after it, if it survives the rest in the case `k`. -/
def survives (k : Bool) : List (Event υ) → Bool
  | [] => k
  | .update _ :: es => survives k es
  | .flush true :: _ => true
  | .flush false :: es => survives k es
  | .restart :: _ => false

/-- The updates that survive a run. In the case `true` those that are not written count, in the case
`false` they do not: a restart would lose them. -/
def survivors (k : Bool) : List (Event υ) → List υ
  | [] => []
  | .update u :: es => if survives k es then u :: survivors k es else survivors k es
  | .flush _ :: es => survivors k es
  | .restart :: es => survivors k es

theorem survives_append (k : Bool) (es rest : List (Event υ)) :
    survives k (es ++ rest) = survives (survives k rest) es := by
  induction es with
  | nil => rfl
  | cons e es ih =>
    cases e with
    | update u => exact ih
    | flush ok =>
      cases ok with
      | true => rfl
      | false => exact ih
    | restart => rfl

theorem survivors_append (k : Bool) (es rest : List (Event υ)) :
    survivors k (es ++ rest) = survivors (survives k rest) es ++ survivors k rest := by
  induction es with
  | nil => rfl
  | cons e es ih =>
    cases e with
    | update u =>
      rw [List.cons_append, survivors, survivors, survives_append, ih]
      split_ifs <;> rfl
    | flush ok => exact ih
    | restart => exact ih

/-! ## Views -/

/-- What is read off a state, with the updates on it. Saving and loading keep it. -/
structure View (st : Store σ υ β) (τ : Type*) where
  view : σ → τ
  apply : τ → υ → τ
  view_apply : ∀ s u, view (st.apply s u) = apply (view s) u
  view_load : ∀ s, view (st.load (some (st.save s))) = view s

namespace View

variable {st : Store σ υ β} (V : View st τ)

/-- Memory and file show their survivors, and a clean store shows the same in both. -/
structure Shows (file : Option β) (s : WriteBack σ β) (es : List (Event υ)) : Prop where
  mem : V.view s.mem = (survivors true es).foldl V.apply (V.view (st.load file))
  file : V.view (st.load s.file) = (survivors false es).foldl V.apply (V.view (st.load file))
  clean : s.dirty = false → survivors true es = survivors false es

variable {V} {file : Option β} {s : WriteBack σ β} {es : List (Event υ)}

theorem shows_spawn (file : Option β) : V.Shows file (spawn st file) [] := ⟨rfl, rfl, fun _ => rfl⟩

theorem Shows.step (h : V.Shows file s es) (e : Event υ) :
    V.Shows file (s.step st e) (es ++ [e]) := by
  cases e with
  | update u =>
    constructor
    · rw [survivors_append]
      show V.view (st.apply s.mem u) = (survivors true es ++ [u]).foldl V.apply _
      rw [V.view_apply, h.mem, List.foldl_append]
      rfl
    · rw [survivors_append]
      show V.view (st.load s.file) = (survivors false es ++ []).foldl V.apply _
      rw [List.append_nil]
      exact h.file
    · exact fun hdirty => Bool.noConfusion hdirty
  | restart =>
    constructor
    · rw [survivors_append]
      show V.view (st.load s.file) = (survivors false es ++ []).foldl V.apply _
      rw [List.append_nil]
      exact h.file
    · rw [survivors_append]
      show V.view (st.load s.file) = (survivors false es ++ []).foldl V.apply _
      rw [List.append_nil]
      exact h.file
    · intro _
      rw [survivors_append, survivors_append]
      rfl
  | flush ok =>
    have hkeep : ∀ k, survivors k (es ++ [.flush ok]) =
        survivors (survives k [(.flush ok : Event υ)]) es := by
      intro k
      rw [survivors_append]
      exact List.append_nil _
    cases ok with
    | false =>
      have hsame : s.step st (.flush false) = s := by
        simp [WriteBack.step]
      rw [hsame]
      exact ⟨(hkeep true).symm ▸ h.mem, (hkeep false).symm ▸ h.file,
        fun hdirty => by rw [hkeep, hkeep]; exact h.clean hdirty⟩
    | true =>
      refine ⟨?_, ?_, fun _ => by rw [hkeep, hkeep]; rfl⟩
      · rw [hkeep]
        have hmem : (s.step st (.flush true)).mem = s.mem := by
          simp only [WriteBack.step]
          split_ifs <;> rfl
        rw [hmem]
        exact h.mem
      · rw [hkeep]
        show _ = (survivors true es).foldl V.apply _
        cases hdirty : s.dirty with
        | true =>
          have hfile : (s.step st (.flush true)).file = some (st.save s.mem) := by
            simp [WriteBack.step, hdirty]
          rw [hfile, V.view_load]
          exact h.mem
        | false =>
          have hfile : (s.step st (.flush true)).file = s.file := by
            simp [WriteBack.step, hdirty]
          rw [hfile, h.clean hdirty]
          exact h.file

/-- **Exactly the survivors count.** After a run memory shows the file of the start with the updates
that survive, and the file those that a restart would leave. -/
theorem run_spec (V : View st τ) (file : Option β) (es : List (Event υ)) :
    V.Shows file ((spawn st file).run st es) es := by
  induction es using List.reverseRecOn with
  | nil => exact shows_spawn file
  | append_singleton es e ih =>
    rw [run, List.foldl_append]
    exact ih.step e

end View

end WriteBack
