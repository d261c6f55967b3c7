import Mathlib.Data.List.Sort
import Mathlib.Order.MinMax

/-!
# Upper medians

The *upper median* of a list is the element at half its length when it is sorted. An interval that
holds more than half of a list holds its upper median, whatever the rest of the list is.

- `upper_mem`, `upper_isSome`: the upper median of a list with elements is one of them.
- `le_upper`, `upper_le`: a bound that more than half of the elements meet.
-/

namespace Median

variable {α : Type*} [LinearOrder α] {l : List α} {a m : α}

/-- The element at half the length, in increasing order. -/
def upper (l : List α) : Option α := (l.insertionSort (· ≤ ·))[l.length / 2]?

theorem upper_mem (h : upper l = some m) : m ∈ l :=
  (List.mem_insertionSort _).mp (List.mem_of_getElem? h)

theorem upper_isSome (h : l ≠ []) : ∃ m, upper l = some m := by
  have hlength : 0 < l.length := List.length_pos_of_ne_nil h
  have hlt : l.length / 2 < (l.insertionSort (· ≤ ·)).length := by
    rw [List.length_insertionSort]
    omega
  exact ⟨_, List.getElem?_eq_getElem hlt⟩

/-- In a sorted list the elements before a place are no larger. -/
theorem take_le {s : List α} {k : ℕ} (hs : s.Pairwise (· ≤ ·)) (hm : s[k]? = some m) {x : α}
    (hx : x ∈ s.take (k + 1)) : x ≤ m := by
  obtain ⟨hk, rfl⟩ := List.getElem?_eq_some_iff.mp hm
  obtain ⟨i, hi, rfl⟩ := List.mem_take_iff_getElem.mp hx
  rcases Nat.lt_succ_iff_lt_or_eq.mp (lt_min_iff.mp hi).1 with hlt | rfl
  · exact List.pairwise_iff_getElem.mp hs i k _ hk hlt
  · exact le_rfl

/-- In a sorted list the elements from a place on are no smaller. -/
theorem le_drop {s : List α} {k : ℕ} (hs : s.Pairwise (· ≤ ·)) (hm : s[k]? = some m) {x : α}
    (hx : x ∈ s.drop k) : m ≤ x := by
  obtain ⟨hk, rfl⟩ := List.getElem?_eq_some_iff.mp hm
  obtain ⟨i, hi, rfl⟩ := List.mem_drop_iff_getElem.mp hx
  rcases Nat.eq_zero_or_pos i with rfl | hpos
  · exact le_rfl
  · exact List.pairwise_iff_getElem.mp hs k (k + i) hk (by omega) (by omega)

/-- **A lower bound of more than half** of the elements bounds the median. -/
theorem le_upper (hmajority : l.length < 2 * l.countP (a ≤ ·)) (hm : upper l = some m) :
    a ≤ m := by
  by_contra hlt
  set s := l.insertionSort (· ≤ ·)
  have hperm : s.Perm l := List.perm_insertionSort _ l
  have hsorted : s.Pairwise (· ≤ ·) := List.pairwise_insertionSort _ l
  -- nothing up to the median counts
  have hbelow : (s.take (l.length / 2 + 1)).countP (a ≤ ·) = 0 := by
    rw [List.countP_eq_zero]
    intro x hx
    simpa using (take_le hsorted hm hx).trans_lt (not_le.mp hlt)
  have hcount : l.countP (a ≤ ·) = (s.drop (l.length / 2 + 1)).countP (a ≤ ·) := by
    rw [← hperm.countP_eq, ← List.take_append_drop (l.length / 2 + 1) s, List.countP_append,
      hbelow, Nat.zero_add, List.take_append_drop]
  have hrest : (s.drop (l.length / 2 + 1)).countP (a ≤ ·) ≤ l.length - (l.length / 2 + 1) := by
    refine List.countP_le_length.trans_eq ?_
    rw [List.length_drop, hperm.length_eq]
  omega

/-- **An upper bound of more than half** of the elements bounds the median. -/
theorem upper_le (hmajority : l.length < 2 * l.countP (· ≤ a)) (hm : upper l = some m) :
    m ≤ a := by
  by_contra hlt
  set s := l.insertionSort (· ≤ ·)
  have hperm : s.Perm l := List.perm_insertionSort _ l
  have hsorted : s.Pairwise (· ≤ ·) := List.pairwise_insertionSort _ l
  -- nothing from the median on counts
  have habove : (s.drop (l.length / 2)).countP (· ≤ a) = 0 := by
    rw [List.countP_eq_zero]
    intro x hx
    simpa using (not_le.mp hlt).trans_le (le_drop hsorted hm hx)
  have hcount : l.countP (· ≤ a) = (s.take (l.length / 2)).countP (· ≤ a) := by
    rw [← hperm.countP_eq, ← List.take_append_drop (l.length / 2) s, List.countP_append,
      habove, Nat.add_zero, List.take_append_drop]
  have hrest : (s.take (l.length / 2)).countP (· ≤ a) ≤ l.length / 2 :=
    List.countP_le_length.trans (List.length_take_le _ _)
  omega

end Median
