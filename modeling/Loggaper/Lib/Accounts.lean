import Mathlib.Algebra.Order.BigOperators.Group.List
import Mathlib.Data.List.Forall2

/-!
# Accounts in the order of their first entry

A vector of rows that is searched by hand: the first row with the key takes an entry, and a key
without a row gets one at the end. `upsert` is that operation, and `Grows` says how the vector
changes over many of them: no row goes away or moves, and each row changes by a given relation.
-/

/-- The account of `k` takes the entry `f`; a new account starts from `fresh`. -/
def upsert {κ ν : Type*} [DecidableEq κ] (k : κ) (f : ν → ν) (fresh : ν) :
    List (κ × ν) → List (κ × ν)
  | [] => [(k, f fresh)]
  | row :: rows => if row.1 = k then (row.1, f row.2) :: rows else row :: upsert k f fresh rows

section
variable {κ ν : Type*} [DecidableEq κ] (k : κ) (f : ν → ν) (fresh : ν)

theorem upsert_cons_self (v : ν) (rows : List (κ × ν)) :
    upsert k f fresh ((k, v) :: rows) = (k, f v) :: rows := if_pos rfl

variable {k} in
theorem upsert_cons_ne {row : κ × ν} (h : row.1 ≠ k) (rows : List (κ × ν)) :
    upsert k f fresh (row :: rows) = row :: upsert k f fresh rows := if_neg h

theorem keys_upsert (rows : List (κ × ν)) :
    (upsert k f fresh rows).map Prod.fst =
      if k ∈ rows.map Prod.fst then rows.map Prod.fst else rows.map Prod.fst ++ [k] := by
  induction rows with
  | nil => rfl
  | cons row rows ih =>
    obtain ⟨a, v⟩ := row
    by_cases h : a = k
    · subst h
      simp [upsert_cons_self]
    · rw [upsert_cons_ne f fresh h, List.map_cons, ih]
      by_cases hk : k ∈ rows.map Prod.fst
      · simp [hk]
      · simp [hk, Ne.symm h]

theorem mem_keys_upsert {rows : List (κ × ν)} {a : κ} :
    a ∈ (upsert k f fresh rows).map Prod.fst ↔ a = k ∨ a ∈ rows.map Prod.fst := by
  rw [keys_upsert]
  split_ifs with h
  · constructor
    · exact .inr
    · intro ha
      rcases ha with rfl | ha
      · exact h
      · exact ha
  · rw [List.mem_append, List.mem_singleton, or_comm]

theorem nodup_upsert {rows : List (κ × ν)} (h : (rows.map Prod.fst).Nodup) :
    ((upsert k f fresh rows).map Prod.fst).Nodup := by
  rw [keys_upsert]
  split_ifs with hk
  · exact h
  · rw [List.nodup_append]
    refine ⟨h, List.pairwise_singleton _ k, ?_⟩
    intro a ha b hb hab
    rw [List.mem_singleton] at hb
    subst hb hab
    exact hk ha

theorem mem_of_lookup {rows : List (κ × ν)} {v : ν} (h : rows.lookup k = some v) :
    (k, v) ∈ rows := by
  obtain ⟨left, right, rfl, -⟩ := List.lookup_eq_some_iff.mp h
  exact List.mem_append_right _ (List.mem_cons_self ..)

/-- Where each key has one row, a row is what its key finds. -/
theorem lookup_of_mem {rows : List (κ × ν)} (hnodup : (rows.map Prod.fst).Nodup) {row : κ × ν}
    (h : row ∈ rows) : rows.lookup row.1 = some row.2 := by
  induction rows with
  | nil => cases h
  | cons r rows ih =>
    obtain ⟨a, v⟩ := r
    obtain ⟨ha, hrows⟩ := List.nodup_cons.mp hnodup
    rcases List.mem_cons.mp h with rfl | hmem
    · exact List.lookup_cons_self
    · have hne : row.1 ≠ a := by
        intro heq
        exact ha (List.mem_map.mpr ⟨row, hmem, heq⟩)
      have hbeq : (row.1 == a) = false := beq_false_of_ne hne
      simp only [List.lookup_cons, hbeq]
      exact ih hrows hmem

/-- **Only the account of `k` changes.** -/
theorem lookup_upsert (rows : List (κ × ν)) (a : κ) :
    (upsert k f fresh rows).lookup a =
      if a = k then some (f ((rows.lookup k).getD fresh)) else rows.lookup a := by
  induction rows with
  | nil =>
    by_cases h : a = k <;> simp [upsert, h]
  | cons row rows ih =>
    obtain ⟨b, v⟩ := row
    by_cases hb : b = k
    · subst hb
      rw [upsert_cons_self]
      by_cases h : a = b
      · subst h; simp
      · have hab : (a == b) = false := beq_false_of_ne h
        simp only [List.lookup_cons, hab, h, if_false]
    · rw [upsert_cons_ne f fresh hb, List.lookup_cons, ih]
      by_cases h : a = k
      · subst h
        have hab : (a == b) = false := beq_false_of_ne (Ne.symm hb)
        simp only [List.lookup_cons, hab, if_true]
      · simp only [List.lookup_cons, h, if_false]

theorem mem_upsert {rows : List (κ × ν)} {row : κ × ν} (h : row ∈ upsert k f fresh rows) :
    row ∈ rows ∨ row = (k, f fresh) ∨ ∃ v, (k, v) ∈ rows ∧ row = (k, f v) := by
  induction rows with
  | nil => exact .inr (.inl (List.mem_singleton.mp h))
  | cons r rows ih =>
    obtain ⟨b, v⟩ := r
    by_cases hb : b = k
    · subst hb
      rw [upsert_cons_self] at h
      rcases List.mem_cons.mp h with h | h
      · exact .inr (.inr ⟨v, List.mem_cons_self .., h⟩)
      · exact .inl (List.mem_cons_of_mem _ h)
    · rw [upsert_cons_ne f fresh hb] at h
      rcases List.mem_cons.mp h with h | h
      · exact .inl (h ▸ List.mem_cons_self ..)
      · rcases ih h with h | h | ⟨w, hw, h⟩
        · exact .inl (List.mem_cons_of_mem _ h)
        · exact .inr (.inl h)
        · exact .inr (.inr ⟨w, List.mem_cons_of_mem _ hw, h⟩)

/-- **One entry adds at most `c`** to a sum over the rows. -/
theorem sum_upsert_le {M : Type*} [AddCommMonoid M] [PartialOrder M] [IsOrderedAddMonoid M]
    {c : M} (g : κ × ν → M) (rows : List (κ × ν))
    (hf : ∀ v, (k, v) ∈ rows → g (k, f v) ≤ g (k, v) + c) (hfresh : g (k, f fresh) ≤ c) :
    ((upsert k f fresh rows).map g).sum ≤ (rows.map g).sum + c := by
  induction rows with
  | nil => simpa [upsert] using hfresh
  | cons row rows ih =>
    obtain ⟨a, v⟩ := row
    by_cases h : a = k
    · subst h
      rw [upsert_cons_self, List.map_cons, List.map_cons, List.sum_cons, List.sum_cons,
        add_right_comm]
      exact add_le_add_left (hf v (List.mem_cons_self ..)) _
    · rw [upsert_cons_ne f fresh h, List.map_cons, List.map_cons, List.sum_cons, List.sum_cons,
        add_assoc]
      exact add_le_add_right (ih fun w hw => hf w (List.mem_cons_of_mem _ hw)) _

end

/-! ## Growth -/

/-- Rows keep their places and their keys, each value changes by `R`, and new rows come last. -/
inductive Grows {κ ν : Type*} (R : ν → ν → Prop) : List (κ × ν) → List (κ × ν) → Prop
  | nil (new : List (κ × ν)) : Grows R [] new
  | cons {k : κ} {v v' : ν} {rows rows' : List (κ × ν)} :
      R v v' → Grows R rows rows' → Grows R ((k, v) :: rows) ((k, v') :: rows')

namespace Grows

variable {κ ν : Type*} {R : ν → ν → Prop} {rows rows' rows'' : List (κ × ν)}

theorem refl (hR : ∀ v, R v v) (rows : List (κ × ν)) : Grows R rows rows := by
  induction rows with
  | nil => exact .nil _
  | cons row rows ih => exact .cons (hR row.2) ih

theorem trans (hR : ∀ u v w, R u v → R v w → R u w) (h : Grows R rows rows')
    (h' : Grows R rows' rows'') : Grows R rows rows'' := by
  induction h generalizing rows'' with
  | nil new => exact .nil _
  | cons hv _ ih =>
    cases h' with
    | cons hv' h' => exact .cons (hR _ _ _ hv hv') (ih h')

theorem exists_of_mem (h : Grows R rows rows') {k : κ} {v : ν} (hmem : (k, v) ∈ rows) :
    ∃ v', (k, v') ∈ rows' ∧ R v v' := by
  induction h with
  | nil new => cases hmem
  | cons hv _ ih =>
    rcases List.mem_cons.mp hmem with heq | hmem
    · cases heq
      exact ⟨_, List.mem_cons_self, hv⟩
    · obtain ⟨v', hmem', hr⟩ := ih hmem
      exact ⟨v', List.mem_cons_of_mem _ hmem', hr⟩

/-- **One entry.** An entry that changes its account by `R` lets the vector grow. -/
theorem upsert [DecidableEq κ] (hR : ∀ v, R v v) {k : κ} {f : ν → ν} (fresh : ν)
    (hf : ∀ v, (k, v) ∈ rows → R v (f v)) : Grows R rows (upsert k f fresh rows) := by
  induction rows with
  | nil => exact .nil _
  | cons row rows ih =>
    obtain ⟨a, v⟩ := row
    by_cases h : a = k
    · subst h
      rw [upsert_cons_self]
      exact .cons (hf v (List.mem_cons_self ..)) (refl hR rows)
    · rw [upsert_cons_ne f fresh h]
      exact .cons (hR v) (ih fun w hw => hf w (List.mem_cons_of_mem _ hw))

/-- A sum whose terms grow with the values, grows. -/
theorem sum_le {M : Type*} [AddCommMonoid M] [PartialOrder M] [IsOrderedAddMonoid M]
    (h : Grows R rows rows') (g : κ × ν → M) (hg : ∀ k v v', R v v' → g (k, v) ≤ g (k, v'))
    (h₀ : ∀ row, 0 ≤ g row) : (rows.map g).sum ≤ (rows'.map g).sum := by
  induction h with
  | nil new =>
    apply List.sum_nonneg
    intro x hx
    obtain ⟨row, -, rfl⟩ := List.mem_map.mp hx
    exact h₀ row
  | cons hv _ ih =>
    rw [List.map_cons, List.map_cons, List.sum_cons, List.sum_cons]
    exact add_le_add (hg _ _ _ hv) ih

end Grows
