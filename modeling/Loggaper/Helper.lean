import Mathlib.Algebra.Order.Floor.Semiring
import Mathlib.Algebra.Order.Round
import Mathlib.Data.List.DropRight
import Mathlib.Data.Rat.Floor
import Mathlib.Tactic.FieldSimp
import Mathlib.Tactic.Linarith
import Mathlib.Tactic.NormNum
import Mathlib.Tactic.Positivity
import Mathlib.Tactic.Ring

/-!
# Token and SOL amounts

`Amount` is a `u64` count of base units with its decimals; sums and differences wrap. The floats
of the source are exact rationals here. A float turns into an amount by rounding to the nearest base
unit (`round`, then the saturating `as u64`), so a conversion moves a value by at most half a unit.

The module also holds the address type, the casts and the searches in texts that the other modules
share.
-/

namespace Loggaper

/-- A Solana address: 32 bytes. -/
abbrev Address := BitVec 256

/-- One name for the instance, so that tests of membership share it across modules. -/
instance : LawfulBEq Address := inferInstance

/-- `u64::MAX`. -/
def u64Max : ℕ := 2 ^ 64 - 1

/-- `x.round() as u64`: halves go up, what does not fit saturates. -/
def roundU64 (x : ℚ) : ℕ := min (round x).toNat u64Max

/-- What a sum of `u64` values leaves in the release build, where it wraps. -/
def wrapU64 (n : ℕ) : ℕ := n % 2 ^ 64

@[simp] theorem wrapU64_wrapU64 (n : ℕ) : wrapU64 (wrapU64 n) = wrapU64 n :=
  Nat.mod_mod n (2 ^ 64)

@[simp] theorem wrapU64_wrapU64_add (a b : ℕ) : wrapU64 (wrapU64 a + b) = wrapU64 (a + b) :=
  Nat.mod_add_mod a (2 ^ 64) b

/-- `x as i64`, and what a sum of `i64` values leaves in the release build. -/
def asI64 (x : ℤ) : ℤ := Int.bmod x (2 ^ 64)

/-- `haystack.contains(needle)` on texts. -/
def textContains (haystack needle : String) : Bool :=
  haystack.toList.tails.any fun t => needle.toList.isPrefixOf t

/-- `text.starts_with(start)`. -/
def textStartsWith (text start : String) : Bool := start.toList.isPrefixOf text.toList

/-- `c.is_whitespace()`: the white space of Unicode. -/
def isWhitespace (c : Char) : Bool :=
  (9 ≤ c.toNat && c.toNat ≤ 13) || (0x2000 ≤ c.toNat && c.toNat ≤ 0x200a) ||
    [0x20, 0x85, 0xa0, 0x1680, 0x2028, 0x2029, 0x202f, 0x205f, 0x3000].contains c.toNat

/-- `trim_start()`. -/
def trimStart (s : List Char) : List Char := s.dropWhile isWhitespace

/-- `trim()`. -/
def trim (s : List Char) : List Char := (trimStart s).rdropWhile isWhitespace

/-! ## Rounding -/

theorem roundU64_le (x : ℚ) : roundU64 x ≤ u64Max := min_le_right _ _

theorem lt_round_add_half (x : ℚ) : x < round x + 1 / 2 := by
  have := Int.lt_floor_add_one (x + 1 / 2)
  rw [← round_eq] at this
  linarith

theorem round_le_add_half (x : ℚ) : (round x : ℚ) ≤ x + 1 / 2 := by
  rw [round_eq]; exact Int.floor_le _

theorem roundU64_pos_iff {x : ℚ} : 0 < roundU64 x ↔ 1 / 2 ≤ x := by
  have hpos : 0 < roundU64 x ↔ 1 ≤ round x := by
    rw [roundU64, lt_min_iff, u64Max]; omega
  rw [hpos, round_eq, Int.le_floor, Int.cast_one]
  constructor <;> intro h <;> linarith

/-- Rounding at most doubles. -/
theorem roundU64_le_two_mul {x : ℚ} (h₀ : 0 ≤ x) : (roundU64 x : ℚ) ≤ 2 * x := by
  rcases Nat.eq_zero_or_pos (roundU64 x) with h | h
  · rw [h, Nat.cast_zero]; linarith
  · have hhalf : 1 / 2 ≤ x := roundU64_pos_iff.mp h
    have hround : 0 ≤ round x := by
      rw [round_eq]
      exact Int.floor_nonneg.mpr (by linarith)
    have hle : (roundU64 x : ℤ) ≤ round x := by
      rw [roundU64]; omega
    calc (roundU64 x : ℚ) ≤ (round x : ℚ) := by exact_mod_cast hle
      _ ≤ x + 1 / 2 := round_le_add_half x
      _ ≤ 2 * x := by linarith

/-- Rounding at most halves what is half a unit or more, unless it saturates. -/
theorem half_le_roundU64 {x : ℚ} (h : 1 / 2 ≤ x) : min (x / 2) u64Max ≤ (roundU64 x : ℚ) := by
  have hround : 1 ≤ round x := by
    rw [round_eq, Int.le_floor, Int.cast_one]; linarith
  have hround' : (1 : ℚ) ≤ round x := by exact_mod_cast hround
  have hhalf : x / 2 ≤ ((round x).toNat : ℚ) := by
    have hcast : (((round x).toNat : ℤ) : ℚ) = (round x : ℚ) := by
      rw [Int.toNat_of_nonneg (by omega)]
    have := lt_round_add_half x
    rw [Int.cast_natCast] at hcast
    linarith
  rw [roundU64, Nat.cast_min]
  exact min_le_min hhalf le_rfl

/-! ## Amounts -/

structure Amount where
  value : ℕ
  decimals : ℕ
  deriving DecidableEq, Repr

namespace Amount

def fromFloatNative (v : ℚ) : Amount where
  value := roundU64 (v * 10 ^ 9)
  decimals := 9

def fromRaw (value decimals : ℕ) : Amount := ⟨value, decimals⟩

def raw (a : Amount) : ℕ := a.value

def toFloat (a : Amount) : ℚ := a.value / 10 ^ a.decimals

/-- `a + b`. Different decimals stop the task (`none`), and the release build wraps. -/
def add (a b : Amount) : Option Amount :=
  if a.decimals = b.decimals then some ⟨(a.value + b.value) % 2 ^ 64, a.decimals⟩ else none

/-- `a - b`, likewise. -/
def sub (a b : Amount) : Option Amount :=
  if a.decimals = b.decimals then some ⟨(a.value + (2 ^ 64 - b.value)) % 2 ^ 64, a.decimals⟩
  else none

theorem add_fromRaw {a : Amount} {d : ℕ} (h : a.decimals = d) (n : ℕ) :
    a.add (fromRaw n d) = some ⟨(a.raw + n) % 2 ^ 64, d⟩ := by
  subst h; exact if_pos rfl

theorem sub_fromRaw {a : Amount} {d : ℕ} (h : a.decimals = d) (n : ℕ) :
    a.sub (fromRaw n d) = some ⟨(a.raw + (2 ^ 64 - n)) % 2 ^ 64, d⟩ := by
  subst h; exact if_pos rfl

@[simp] theorem fromFloatNative_decimals (v : ℚ) : (fromFloatNative v).decimals = 9 := rfl

theorem toFloat_pos_iff (a : Amount) : 0 < a.toFloat ↔ 0 < a.raw := by
  rw [toFloat, div_pos_iff_of_pos_right (by positivity), Nat.cast_pos, raw]

theorem toFloat_nonneg (a : Amount) : 0 ≤ a.toFloat := by
  unfold toFloat; positivity

theorem roundU64_le_of_le_natCast {x : ℚ} {n : ℕ} (h : x ≤ n) : roundU64 x ≤ n := by
  have hr : round x ≤ (n : ℤ) := by
    rw [round_eq, ← Int.lt_add_one_iff, Int.floor_lt]
    push_cast
    linarith
  calc roundU64 x ≤ (round x).toNat := min_le_left _ _
    _ ≤ n := by omega

theorem abs_roundU64_sub_le {x : ℚ} (h₀ : 0 ≤ x) (h : x ≤ u64Max) :
    |(roundU64 x : ℚ) - x| ≤ 1 / 2 := by
  have hlo : 0 ≤ round x := by
    rw [round_eq]
    exact Int.floor_nonneg.mpr (by linarith)
  have hhi : round x ≤ (u64Max : ℤ) := by
    rw [round_eq, ← Int.lt_add_one_iff, Int.floor_lt]
    push_cast
    linarith
  have hval : (roundU64 x : ℤ) = round x := by
    rw [roundU64, min_eq_left (by omega), Int.toNat_of_nonneg hlo]
  have hq : (roundU64 x : ℚ) = (round x : ℚ) := by exact_mod_cast hval
  rw [hq, abs_sub_comm]
  exact abs_sub_round x

/-- Rounding what is at most a nine-decimal amount gives at most that amount. -/
theorem fromFloatNative_value_le {a : Amount} (ha : a.decimals = 9) {v : ℚ} (h : v ≤ a.toFloat) :
    (fromFloatNative v).value ≤ a.value := by
  apply roundU64_le_of_le_natCast
  have : a.toFloat * 10 ^ 9 = a.value := by
    rw [toFloat, ha]; field_simp
  calc v * 10 ^ 9 ≤ a.toFloat * 10 ^ 9 := by gcongr
    _ = (a.value : ℚ) := this

theorem fromFloatNative_toFloat_le {a : Amount} (ha : a.decimals = 9) {v : ℚ}
    (h : v ≤ a.toFloat) : (fromFloatNative v).toFloat ≤ a.toFloat := by
  have := fromFloatNative_value_le ha h
  rw [toFloat, toFloat, ha, fromFloatNative_decimals]
  gcongr

/-- **Half a nano unit.** A float in the range of `u64` nano units is off by at most `0.5e-9`
after its round trip through an amount. -/
theorem abs_fromFloatNative_toFloat_sub_le {v : ℚ} (h₀ : 0 ≤ v) (h : v * 10 ^ 9 ≤ u64Max) :
    |(fromFloatNative v).toFloat - v| ≤ 1 / 2 / 10 ^ 9 := by
  have hr := abs_roundU64_sub_le (x := v * 10 ^ 9) (by positivity) h
  have : (fromFloatNative v).toFloat - v = (roundU64 (v * 10 ^ 9) - v * 10 ^ 9) / 10 ^ 9 := by
    simp only [toFloat, fromFloatNative]; field_simp
  rw [this, abs_div, abs_of_pos (by positivity : (0 : ℚ) < 10 ^ 9)]
  gcongr

end Amount

end Loggaper
