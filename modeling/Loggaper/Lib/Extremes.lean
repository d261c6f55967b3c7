import Mathlib.Data.List.Induction
import Mathlib.Order.Defs.Unbundled

/-!
# The first of the best

A fold keeps one entry of a list, and takes a later one only when it is better. What is left is the
first of the best entries.

Main result: `first_spec`, what the fold keeps.
-/

namespace Extremes

variable {τ α : Type*} (r : α → α → Prop)

/-- A later entry, when it is better. -/
def keep [DecidableRel r] (best : Option (τ × α)) (p : τ × α) : Option (τ × α) :=
  match best with
  | some b => if r p.2 b.2 then some p else some b
  | none => some p

def first [DecidableRel r] (l : List (τ × α)) : Option (τ × α) := l.foldl (keep r) none

theorem first_concat [DecidableRel r] (l : List (τ × α)) (p : τ × α) :
    first r (l ++ [p]) = keep r (first r l) p := by
  rw [first, List.foldl_append]
  rfl

/-- Better than all before it, and not worse than any behind it. -/
def IsFirst (l : List (τ × α)) (p : τ × α) : Prop :=
  ∃ before behind, l = before ++ p :: behind ∧ (∀ q ∈ before, r p.2 q.2) ∧
    ∀ q ∈ behind, ¬ r q.2 p.2

variable {r}

theorem IsFirst.mem {l : List (τ × α)} {p : τ × α} (h : IsFirst r l p) : p ∈ l := by
  obtain ⟨before, behind, rfl, -, -⟩ := h
  simp

theorem IsFirst.concat {l : List (τ × α)} {b p : τ × α} (h : IsFirst r l b) (hp : ¬ r p.2 b.2) :
    IsFirst r (l ++ [p]) b := by
  obtain ⟨before, behind, rfl, hbefore, hbehind⟩ := h
  refine ⟨before, behind ++ [p], by simp, hbefore, fun q hq => ?_⟩
  rcases List.mem_append.mp hq with hq | hq
  · exact hbehind q hq
  · rwa [List.mem_singleton.mp hq]

variable [IsStrictTotalOrder α r]

theorem not_rel_of_isFirst {l : List (τ × α)} {p q : τ × α} (h : IsFirst r l p) (hq : q ∈ l) :
    ¬ r q.2 p.2 := by
  obtain ⟨before, behind, rfl, hbefore, hbehind⟩ := h
  rcases List.mem_append.mp hq with hq | hq
  · exact asymm (hbefore q hq)
  · rcases List.mem_cons.mp hq with rfl | hq
    · exact irrefl q.2
    · exact hbehind q hq

theorem IsFirst.concat_better {l : List (τ × α)} {b p : τ × α} (h : IsFirst r l b)
    (hp : r p.2 b.2) : IsFirst r (l ++ [p]) p := by
  refine ⟨l, [], rfl, fun q hq => ?_, fun q hq => absurd hq List.not_mem_nil⟩
  rcases trichotomous_of r b.2 q.2 with hbq | hbq | hqb
  · exact Trans.trans hp hbq
  · rwa [← hbq]
  · exact absurd hqb (not_rel_of_isFirst h hq)

/-- **What the fold keeps** is the first of the best. -/
theorem first_spec [DecidableRel r] (l : List (τ × α)) :
    (l = [] ∧ first r l = none) ∨ ∃ p, first r l = some p ∧ IsFirst r l p := by
  induction l using List.reverseRecOn with
  | nil => exact .inl ⟨rfl, rfl⟩
  | append_singleton l p ih =>
    rw [first_concat]
    rcases ih with ⟨rfl, hnone⟩ | ⟨b, hb, hfirst⟩
    · rw [hnone]
      exact .inr ⟨p, rfl, [], [], rfl, by simp, by simp⟩
    · rw [hb]
      by_cases hp : r p.2 b.2
      · exact .inr ⟨p, if_pos hp, hfirst.concat_better hp⟩
      · exact .inr ⟨b, if_neg hp, hfirst.concat hp⟩

end Extremes
