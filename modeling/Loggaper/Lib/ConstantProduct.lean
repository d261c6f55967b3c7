import Mathlib.Algebra.Order.Floor.Div
import Mathlib.Tactic.Linarith
import Mathlib.Tactic.Ring

/-!
# Selling into a constant-product curve

A curve holds `x` of one asset and `y` of the other and keeps their product while it trades. Both
functions divide whole numbers and round down.

- `payout`: what the curve pays for `t` more of the second asset, `x - ⌊x * y / (y + t)⌋`.
- `capacity`: how much it takes for a payout of `c`, `⌊x * y / (x - c)⌋ - y`.
- `payout_le_iff`: the two are adjoint, so `capacity` is the largest amount that pays at most `c`.
- `payout_eq_ceilDiv`: the payout is `x * t / (y + t)`, rounded up.
-/

namespace ConstantProduct

variable {x y : ℕ}

def payout (x y t : ℕ) : ℕ := x - x * y / (y + t)

def capacity (x y c : ℕ) : ℕ := x * y / (x - c) - y

theorem payout_le (x y t : ℕ) : payout x y t ≤ x := Nat.sub_le _ _

/-- Nothing is paid for nothing. -/
@[simp] theorem payout_zero (hy : 0 < y) : payout x y 0 = 0 := by
  rw [payout, Nat.add_zero, Nat.mul_div_cancel _ hy, Nat.sub_self]

/-- A payout below the reserves, as a bound on the product. -/
theorem payout_le_iff_mul (hy : 0 < y) {c : ℕ} (hc : c ≤ x) (t : ℕ) :
    payout x y t ≤ c ↔ (x - c) * (y + t) ≤ x * y := by
  have hpos : 0 < y + t := by omega
  rw [← Nat.le_div_iff_mul_le hpos, payout]
  omega

/-- **The payout rounds up.** -/
theorem payout_eq_ceilDiv (hy : 0 < y) (t : ℕ) : payout x y t = (x * t) ⌈/⌉ (y + t) := by
  have hpos : 0 < y + t := by omega
  apply eq_of_forall_ge_iff
  intro c
  rw [ceilDiv_le_iff_le_mul hpos]
  rcases le_total c x with hc | hc
  · rw [payout_le_iff_mul hy hc]
    obtain ⟨d, rfl⟩ := Nat.exists_eq_add_of_le hc
    rw [Nat.add_sub_cancel_left]
    constructor <;> intro h <;> nlinarith
  · constructor
    · intro _
      calc x * t ≤ c * (y + t) := Nat.mul_le_mul hc (Nat.le_add_left t y)
        _ = (y + t) * c := Nat.mul_comm _ _
    · intro _
      exact (payout_le x y t).trans hc

theorem payout_mono (hy : 0 < y) {s t : ℕ} (h : s ≤ t) : payout x y s ≤ payout x y t := by
  have hdiv : x * y / (y + t) ≤ x * y / (y + s) :=
    Nat.div_le_div_left (by omega) (by omega)
  unfold payout
  omega

/-- **The two are adjoint** below the reserves. -/
theorem payout_le_iff (hy : 0 < y) {c : ℕ} (hc : c < x) (t : ℕ) :
    payout x y t ≤ c ↔ t ≤ capacity x y c := by
  have hpos : 0 < x - c := by omega
  -- the product is at least `y` times what is left, so the subtraction does not cut off
  have hy' : y ≤ x * y / (x - c) := by
    rw [Nat.le_div_iff_mul_le hpos, Nat.mul_comm]
    exact Nat.mul_le_mul_right y (Nat.sub_le x c)
  calc payout x y t ≤ c ↔ (x - c) * (y + t) ≤ x * y := payout_le_iff_mul hy hc.le t
    _ ↔ (y + t) * (x - c) ≤ x * y := by rw [Nat.mul_comm]
    _ ↔ y + t ≤ x * y / (x - c) := (Nat.le_div_iff_mul_le hpos).symm
    _ ↔ t ≤ capacity x y c := by unfold capacity; omega

end ConstantProduct
