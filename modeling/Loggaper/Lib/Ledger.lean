import Mathlib.Algebra.BigOperators.Group.Finset.Piecewise
import Mathlib.Algebra.BigOperators.Group.List.Basic

/-!
# Ledgers

A *ledger* is a list of amounts, each under a key. A condition on keys has a share of it, the sum of
the amounts under its keys.

- `share_congr`: ledgers in which every single key has the same share give every set of keys the
  same share.
-/

/-- Amounts under keys. -/
abbrev Ledger (κ α : Type*) := List (κ × α)

namespace Ledger

variable {κ α : Type*} [AddCommMonoid α] (P : κ → Bool)

/-- What the keys with `P` have. -/
def share (l : Ledger κ α) : α := (l.map fun e => if P e.1 then e.2 else 0).sum

@[simp] theorem share_nil : share P ([] : Ledger κ α) = 0 := rfl

@[simp] theorem share_cons (e : κ × α) (l : Ledger κ α) :
    share P (e :: l) = (if P e.1 then e.2 else 0) + share P l := by
  simp [share]

@[simp] theorem share_append (l l' : Ledger κ α) : share P (l ++ l') = share P l + share P l' := by
  simp [share]

section
variable [DecidableEq κ]

/-- The share of one key. -/
def account (k : κ) (l : Ledger κ α) : α := share (· == k) l

theorem account_cons (k : κ) (e : κ × α) (l : Ledger κ α) :
    account k (e :: l) = (if e.1 = k then e.2 else 0) + account k l := by
  simp [account]

theorem account_append (k : κ) (l l' : Ledger κ α) :
    account k (l ++ l') = account k l + account k l' := share_append _ l l'

theorem account_eq_zero {k : κ} {l : Ledger κ α} (h : ∀ e ∈ l, e.1 ≠ k) : account k l = 0 := by
  induction l with
  | nil => rfl
  | cons e l ih =>
    rw [List.forall_mem_cons] at h
    have hrest : share (· == k) l = 0 := ih h.2
    simp [account, h.1, hrest]

/-- A set of keys has what its keys have. -/
theorem share_eq_sum {S : Finset κ} {l : Ledger κ α} (h : ∀ e ∈ l, e.1 ∈ S) :
    share P l = ∑ k ∈ S, if P k then account k l else 0 := by
  induction l with
  | nil => simp [account]
  | cons e l ih =>
    rw [List.forall_mem_cons] at h
    have hsplit (k : κ) : (if P k then account k (e :: l) else 0) =
        (if e.1 = k then (if P k then e.2 else 0) else 0) + if P k then account k l else 0 := by
      by_cases hk : P k = true <;> simp [account, hk]
    rw [share_cons, ih h.2, Finset.sum_congr rfl fun k _ => hsplit k, Finset.sum_add_distrib,
      Finset.sum_ite_eq, if_pos h.1]

/-- **Every set of keys.** Two ledgers in which each key has the same share. -/
theorem share_congr {l l' : Ledger κ α} (h : ∀ k, account k l = account k l') :
    share P l = share P l' := by
  have hl : ∀ e ∈ l, e.1 ∈ ((l ++ l').map Prod.fst).toFinset := fun e he =>
    List.mem_toFinset.mpr (List.mem_map_of_mem (List.mem_append_left _ he))
  have hl' : ∀ e ∈ l', e.1 ∈ ((l ++ l').map Prod.fst).toFinset := fun e he =>
    List.mem_toFinset.mpr (List.mem_map_of_mem (List.mem_append_right _ he))
  rw [share_eq_sum P hl, share_eq_sum P hl']
  exact Finset.sum_congr rfl fun k _ => by rw [h k]

end

end Ledger
