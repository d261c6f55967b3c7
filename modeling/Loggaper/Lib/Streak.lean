import Mathlib.Data.List.TakeWhile

/-!
# Streaks

A verdict is passed at each of a sequence of moments. A counter that goes up with each positive
verdict, starts again at each negative one and stops at a cap tells whether the last `n` verdicts
were positive, for every `n` up to the cap.

- `Confirmed n verdicts`: the last `n` verdicts are positive. The newest verdict comes first.
- `streak verdicts`: how many of the last ones are.
- `count_streak`: the counter is the streak, up to the cap.
-/

namespace Streak

/-- The last `n` verdicts are there, and positive. -/
def Confirmed (n : ℕ) (verdicts : List Bool) : Prop :=
  n ≤ verdicts.length ∧ ∀ b ∈ verdicts.take n, b = true

instance (n : ℕ) (verdicts : List Bool) : Decidable (Confirmed n verdicts) :=
  inferInstanceAs (Decidable (_ ∧ _))

/-- The number of positive verdicts since the last negative one. -/
def streak (verdicts : List Bool) : ℕ := (verdicts.takeWhile id).length

/-- The counter after a verdict. -/
def count (cap : ℕ) (n : ℕ) (verdict : Bool) : ℕ := if verdict then min (n + 1) cap else 0

@[simp] theorem streak_nil : streak [] = 0 := rfl

@[simp] theorem streak_true (verdicts : List Bool) :
    streak (true :: verdicts) = streak verdicts + 1 := by
  simp [streak]

@[simp] theorem streak_false (verdicts : List Bool) : streak (false :: verdicts) = 0 := by
  simp [streak]

/-- The counter follows the streak. -/
theorem count_streak (cap : ℕ) (verdict : Bool) (verdicts : List Bool) :
    count cap (min (streak verdicts) cap) verdict = min (streak (verdict :: verdicts)) cap := by
  cases verdict with
  | true =>
    rw [streak_true]
    show min (min (streak verdicts) cap + 1) cap = min (streak verdicts + 1) cap
    omega
  | false =>
    rw [streak_false]
    exact (Nat.zero_min cap).symm

theorem confirmed_iff (n : ℕ) (verdicts : List Bool) :
    Confirmed n verdicts ↔ n ≤ streak verdicts := by
  induction verdicts generalizing n with
  | nil => simp [Confirmed]
  | cons verdict verdicts ih =>
    cases n with
    | zero => simp [Confirmed]
    | succ n =>
      cases verdict with
      | true =>
        rw [streak_true, Nat.add_le_add_iff_right, ← ih n]
        simp [Confirmed]
      | false => simp [Confirmed]

end Streak
