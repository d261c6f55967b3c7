import Mathlib.Data.List.Infix

/-!
# What follows a word

`afterFirst needle text` is the part of `text` after the first occurrence of `needle`. A segment is
*passed over* by the search when whatever follows it, the search goes on behind it.

- `Passes.append`: segments are passed over one after another.
- `passes_of_tails`, `passes_of_head_notMem`: two ways to see that a segment is passed over, by
  looking at its ends and by its letters.
- `Passes.afterFirst`: a needle behind such segments is found.
-/

namespace Search

variable {α : Type*} [DecidableEq α] {needle s t text : List α}

/-- The part of the text after the first occurrence of the needle. -/
def afterFirst (needle : List α) : List α → Option (List α)
  | [] => if needle = [] then some [] else none
  | a :: text =>
    if needle <+: a :: text then some ((a :: text).drop needle.length) else afterFirst needle text

theorem afterFirst_needle (needle t : List α) : afterFirst needle (needle ++ t) = some t := by
  cases needle with
  | nil => cases t <;> simp [afterFirst]
  | cons a needle =>
    rw [List.cons_append, afterFirst, ← List.cons_append, if_pos (List.prefix_append _ _),
      List.drop_left]

/-- The search goes on behind the segment. -/
def Passes (needle s : List α) : Prop :=
  ∀ t, afterFirst needle (s ++ t) = afterFirst needle t

theorem Passes.append (hs : Passes needle s) (ht : Passes needle t) : Passes needle (s ++ t) := by
  intro u
  rw [List.append_assoc, hs, ht]

/-- Behind segments that are passed over the needle is found. -/
theorem Passes.afterFirst (hs : Passes needle s) (t : List α) :
    afterFirst needle (s ++ (needle ++ t)) = some t := by
  rw [hs, afterFirst_needle]

theorem Passes.cons {a : α} (ha : ∀ t, ¬ needle <+: a :: (s ++ t)) (hs : Passes needle s) :
    Passes needle (a :: s) := by
  intro t
  rw [List.cons_append, Search.afterFirst, if_neg (ha t)]
  exact hs t

/-- A segment none of whose ends begins like the needle is passed over. -/
theorem passes_of_tails
    (h : ∀ u ∈ s.tails, u ≠ [] → ¬ u <+: needle ∧ ¬ needle <+: u) : Passes needle s := by
  induction s with
  | nil =>
    intro t
    rfl
  | cons a s ih =>
    rw [List.tails_cons] at h
    refine Passes.cons ?_ (ih fun u hu => h u (List.mem_cons_of_mem _ hu))
    intro t hprefix
    obtain ⟨hshort, hlong⟩ := h (a :: s) List.mem_cons_self (List.cons_ne_nil a s)
    rw [← List.cons_append] at hprefix
    rcases List.prefix_or_prefix_of_prefix hprefix (List.prefix_append (a :: s) t) with hin | hout
    · exact hlong hin
    · exact hshort hout

/-- So is one without the needle's first letter. -/
theorem passes_of_head_notMem {a : α} {rest : List α} (h : a ∉ s) : Passes (a :: rest) s := by
  induction s with
  | nil =>
    intro t
    rfl
  | cons b s ih =>
    rw [List.mem_cons, not_or] at h
    refine Passes.cons ?_ (ih h.2)
    intro t hprefix
    exact h.1 (List.cons_prefix_cons.mp hprefix).1

/-- A text that is passed over does not have the needle. -/
theorem Passes.afterFirst_eq_none (hne : needle ≠ []) (h : Passes needle text) :
    Search.afterFirst needle text = none := by
  have hnil := h []
  rwa [List.append_nil, Search.afterFirst, if_neg hne] at hnil

/-- A text without one of the needle's letters does not have the needle. -/
theorem afterFirst_eq_none_of_notMem {a : α} (ha : a ∈ needle) (h : a ∉ text) :
    Search.afterFirst needle text = none := by
  have hne : needle ≠ [] := List.ne_nil_of_mem ha
  induction text with
  | nil => rw [Search.afterFirst, if_neg hne]
  | cons b text ih =>
    have hprefix : ¬ needle <+: b :: text := fun hpre => h (hpre.subset ha)
    rw [Search.afterFirst, if_neg hprefix]
    exact ih fun hmem => h (List.mem_cons_of_mem b hmem)

end Search
