import Mathlib.Algebra.Order.Group.Nat
import Mathlib.Algebra.Ring.Nat
import Mathlib.Data.List.Basic

/-!
# Cutting texts at byte offsets

A text in UTF-8 can be cut only where a character ends (`isSome_takeBytes`).
-/

namespace TextSlice

/-- The length in UTF-8. -/
def byteLength (s : List Char) : ℕ := (s.map Char.utf8Size).sum

/-- The first `n` bytes, unless the cut is inside a character or behind the end. -/
def takeBytes : ℕ → List Char → Option (List Char)
  | 0, _ => some []
  | _ + 1, [] => none
  | n + 1, c :: s =>
    if c.utf8Size ≤ n + 1 then (takeBytes (n + 1 - c.utf8Size) s).map (c :: ·) else none

/-- A character ends, or the text begins, `n` bytes into it. -/
def Boundary (s : List Char) (n : ℕ) : Prop :=
  ∃ front back, s = front ++ back ∧ byteLength front = n

@[simp] theorem byteLength_nil : byteLength [] = 0 := rfl

@[simp] theorem byteLength_cons (c : Char) (s : List Char) :
    byteLength (c :: s) = c.utf8Size + byteLength s := rfl

theorem utf8ByteSize_ofList (s : List Char) : (String.ofList s).utf8ByteSize = byteLength s := by
  induction s with
  | nil => rfl
  | cons c s ih =>
    rw [String.ofList_cons, String.utf8ByteSize_append, String.utf8ByteSize_singleton, ih,
      byteLength_cons]

theorem boundary_cons {c : Char} {s : List Char} {n : ℕ} (hn : 0 < n) :
    Boundary (c :: s) n ↔ c.utf8Size ≤ n ∧ Boundary s (n - c.utf8Size) := by
  constructor
  · rintro ⟨front, back, heq, rfl⟩
    cases front with
    | nil => exact absurd hn (lt_irrefl 0)
    | cons d front =>
      obtain ⟨rfl, rfl⟩ := List.cons.inj heq
      rw [byteLength_cons]
      exact ⟨Nat.le_add_right _ _, front, back, rfl, (Nat.add_sub_cancel_left _ _).symm⟩
  · rintro ⟨hle, front, back, rfl, hlength⟩
    exact ⟨c :: front, back, rfl, by rw [byteLength_cons, hlength]; omega⟩

theorem isSome_takeBytes (n : ℕ) (s : List Char) :
    (takeBytes n s).isSome = true ↔ Boundary s n := by
  fun_induction takeBytes n s with
  | case1 s => exact iff_of_true rfl ⟨[], s, rfl, rfl⟩
  | case2 n =>
    refine iff_of_false (by simp) ?_
    rintro ⟨front, back, heq, hlength⟩
    rw [(List.append_eq_nil_iff.mp heq.symm).1] at hlength
    exact absurd hlength (by simp)
  | case3 n c s hle ih =>
    rw [Option.isSome_map, ih, boundary_cons n.succ_pos, and_iff_right hle]
  | case4 n c s hlt =>
    rw [boundary_cons n.succ_pos]
    exact iff_of_false (by simp) fun h => hlt h.1

/-- `&s[..n]`. -/
def sliceTo (s : String) (n : ℕ) : Option String := (takeBytes n s.toList).map String.ofList

theorem isSome_sliceTo (s : String) (n : ℕ) :
    (sliceTo s n).isSome = true ↔ Boundary s.toList n := by
  rw [sliceTo, Option.isSome_map, isSome_takeBytes]

end TextSlice
