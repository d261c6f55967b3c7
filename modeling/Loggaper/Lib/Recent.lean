import Mathlib.Data.List.Nodup
import Mathlib.Data.List.Basic

/-!
# The last `c` distinct items

A window remembers the last `c` items that were new to it. An item is new when the window does not
have it, so a repeated item neither moves to the front nor pushes another one out, and an item that
was pushed out is new again.

- `Recent α c`: the window, newest item first.
- `items_after`: the window is the last `c` new items, whatever the items were.
- `count_fresh`: an item is new only once until `c` others are.
-/

/-- At most `c` items, none of them twice. -/
structure Recent (α : Type*) (c : ℕ) where
  items : List α
  nodup : items.Nodup
  length_le : items.length ≤ c

namespace Recent

variable {α : Type*} {c : ℕ}

def empty : Recent α c := ⟨[], List.nodup_nil, Nat.zero_le c⟩

/-- A new item comes to the front. -/
def push (w : Recent α c) (x : α) (h : x ∉ w.items) : Recent α c where
  items := (x :: w.items).take c
  nodup := (List.nodup_cons.mpr ⟨h, w.nodup⟩).sublist (List.take_sublist _ _)
  length_le := List.length_take_le _ _

theorem take_append_take (front items : List α) :
    (front ++ items.take c).take c = (front ++ items).take c := by
  rw [List.take_append, List.take_append, List.take_take, Nat.min_eq_left (Nat.sub_le _ _)]

variable [DecidableEq α]

def offer (w : Recent α c) (x : α) : Recent α c :=
  if h : x ∈ w.items then w else w.push x h

/-- The items of `xs` that are new, each to the window it comes to. -/
def fresh (w : Recent α c) : List α → List α
  | [] => []
  | x :: xs => if x ∈ w.items then (w.offer x).fresh xs else x :: (w.offer x).fresh xs

/-- The window after the items of `xs`. -/
def after (w : Recent α c) (xs : List α) : Recent α c := xs.foldl offer w

theorem offer_of_mem {w : Recent α c} {x : α} (h : x ∈ w.items) : w.offer x = w := dif_pos h

theorem items_offer {w : Recent α c} {x : α} (h : x ∉ w.items) :
    (w.offer x).items = (x :: w.items).take c := by
  rw [offer, dif_neg h]
  rfl

theorem fresh_of_mem {w : Recent α c} {x : α} (h : x ∈ w.items) (xs : List α) :
    w.fresh (x :: xs) = w.fresh xs := by
  rw [fresh, if_pos h, offer_of_mem h]

theorem fresh_of_not_mem {w : Recent α c} {x : α} (h : x ∉ w.items) (xs : List α) :
    w.fresh (x :: xs) = x :: (w.offer x).fresh xs := by
  rw [fresh, if_neg h]

theorem fresh_subset (w : Recent α c) (xs : List α) : w.fresh xs ⊆ xs := by
  induction xs generalizing w with
  | nil => exact List.Subset.refl _
  | cons x xs ih =>
    by_cases h : x ∈ w.items
    · rw [fresh_of_mem h]
      exact List.subset_cons_of_subset x (ih w)
    · rw [fresh_of_not_mem h]
      exact List.cons_subset_cons x (ih (w.offer x))

/-- The window is the last `c` of the new items and of the items it had. -/
theorem items_after (w : Recent α c) (xs : List α) :
    (w.after xs).items = ((w.fresh xs).reverse ++ w.items).take c := by
  induction xs generalizing w with
  | nil => exact (List.take_of_length_le w.length_le).symm
  | cons x xs ih =>
    have hrest : (w.after (x :: xs)).items = ((w.offer x).after xs).items := rfl
    rw [hrest, ih (w.offer x)]
    by_cases h : x ∈ w.items
    · rw [fresh_of_mem h, offer_of_mem h]
    · rw [fresh_of_not_mem h, items_offer h, take_append_take, List.reverse_cons,
        List.append_assoc]
      rfl

/-- An item stays while there is room for the new ones before it. -/
theorem not_mem_fresh {w : Recent α c} {x : α} {front back : List α}
    (hitems : w.items = front ++ x :: back) {xs : List α}
    (hroom : front.length + (w.fresh xs).countP (· ≠ x) < c) : x ∉ w.fresh xs := by
  induction xs generalizing w front back with
  | nil => exact List.not_mem_nil
  | cons y xs ih =>
    by_cases h : y ∈ w.items
    · rw [fresh_of_mem h] at hroom ⊢
      exact ih hitems hroom
    · have hne : y ≠ x := by
        rintro rfl
        exact h (by simp [hitems])
      rw [fresh_of_not_mem h, List.countP_cons_of_pos (by simpa using hne)] at hroom
      have hfront : (w.offer y).items =
          (y :: front) ++ x :: back.take (c - (y :: front).length - 1) := by
        rw [items_offer h, hitems, ← List.cons_append, List.take_append,
          List.take_of_length_le (by rw [List.length_cons]; omega), List.take_cons (by
            rw [List.length_cons]; omega)]
      rw [fresh_of_not_mem h]
      exact List.not_mem_cons_of_ne_of_not_mem hne.symm
        (ih hfront (by rw [List.length_cons]; omega))

/-- A new item is new once, until `c` others are. -/
theorem count_fresh {w : Recent α c} {x : α} (h : x ∉ w.items) (hc : 1 ≤ c) {xs : List α}
    (hfew : ((w.fresh (x :: xs)).countP (· ≠ x)) < c) : (w.fresh (x :: xs)).count x = 1 := by
  rw [fresh_of_not_mem h, List.countP_cons_of_neg (by simp)] at hfew
  have hitems : (w.offer x).items = [] ++ x :: w.items.take (c - 1) := by
    rw [items_offer h, List.take_cons hc]
    rfl
  rw [fresh_of_not_mem h, List.count_cons_self,
    List.count_eq_zero_of_not_mem (not_mem_fresh hitems (by simpa using hfew))]

end Recent
