import Mathlib.Algebra.Order.Floor.Semiring
import Mathlib.Algebra.Order.Field.Rat
import Mathlib.Data.Rat.Floor
import Mathlib.Tactic.Linarith
import Mathlib.Tactic.NormNum
import Mathlib.Tactic.Positivity

/-!
# Decimal numbers

`formatTenths` writes a rational number with one decimal, rounding to the nearest and halves to
even; `formatFixed` writes a natural number with its last digits behind a point; `parse` reads
numbers with a sign, a fraction and an exponent.

- `parse_formatTenths`: what is read back is the rounded number.
- `abs_toTenths_sub_le`: which is off by at most `1 / 20`.
- `parseMagnitude_formatFixed`: a number with `d` digits behind the point is `n / 10 ^ d`.
-/

namespace Decimal

/-! ## Rounding -/

/-- The nearest natural number, of two as near the even one. -/
def roundEven (x : ℚ) : ℕ :=
  if x - ⌊x⌋₊ < 1 / 2 then ⌊x⌋₊
  else if 1 / 2 < x - ⌊x⌋₊ then ⌊x⌋₊ + 1
  else ⌊x⌋₊ + ⌊x⌋₊ % 2

theorem abs_roundEven_sub_le {x : ℚ} (hx : 0 ≤ x) : |(roundEven x : ℚ) - x| ≤ 1 / 2 := by
  have hlo : (⌊x⌋₊ : ℚ) ≤ x := Nat.floor_le hx
  have hhi : x < ⌊x⌋₊ + 1 := Nat.lt_floor_add_one x
  unfold roundEven
  split_ifs with hbelow habove
  · rw [abs_le]
    constructor <;> linarith
  · rw [abs_le]
    push_cast
    constructor <;> linarith
  · have hhalf : x - ⌊x⌋₊ = 1 / 2 := le_antisymm (not_lt.mp habove) (not_lt.mp hbelow)
    rcases Nat.mod_two_eq_zero_or_one ⌊x⌋₊ with heven | hodd
    · rw [heven, abs_le]
      push_cast
      constructor <;> linarith
    · rw [hodd, abs_le]
      push_cast
      constructor <;> linarith

/-- The tenths of the rounded magnitude. -/
def tenths (x : ℚ) : ℕ := roundEven (|x| * 10)

/-- The number rounded to one decimal. -/
def toTenths (x : ℚ) : ℚ := if x < 0 then -(tenths x / 10) else tenths x / 10

theorem abs_toTenths_sub_le (x : ℚ) : |toTenths x - x| ≤ 1 / 20 := by
  have hround : |(tenths x : ℚ) - |x| * 10| ≤ 1 / 2 := abs_roundEven_sub_le (by positivity)
  rw [abs_le] at hround ⊢
  unfold toTenths
  split_ifs with hneg
  · rw [abs_of_neg hneg] at hround
    constructor <;> linarith
  · rw [abs_of_nonneg (not_lt.mp hneg)] at hround
    constructor <;> linarith

/-! ## Writing -/

/-- `{:.1}`. -/
def formatTenths (x : ℚ) : List Char :=
  (if x < 0 then ['-'] else []) ++
    (Nat.toDigits 10 (tenths x / 10) ++ ['.', (tenths x % 10).digitChar])

theorem isDigit_lastDigit (n : ℕ) : (n % 10).digitChar.isDigit = true := by
  rw [Nat.isDigit_digitChar, decide_eq_true_eq]
  exact Nat.mod_lt _ (by norm_num)

theorem isDigit_of_mem_toDigits {n : ℕ} {c : Char} (hc : c ∈ Nat.toDigits 10 n) :
    c.isDigit = true :=
  Nat.isDigit_of_mem_toDigits (by norm_num) le_rfl hc

/-- The letters of a written number. -/
theorem letters_formatTenths {x : ℚ} {c : Char} (hc : c ∈ formatTenths x) :
    c.isDigit = true ∨ c = '.' ∨ c = '-' := by
  simp only [formatTenths, List.mem_append, List.mem_cons, List.not_mem_nil, or_false] at hc
  rcases hc with hsign | hwhole | rfl | rfl
  · split_ifs at hsign
    · exact .inr (.inr (List.mem_singleton.mp hsign))
    · exact absurd hsign List.not_mem_nil
  · exact .inl (isDigit_of_mem_toDigits hwhole)
  · exact .inr (.inl rfl)
  · exact .inl (isDigit_lastDigit _)

/-! ## Reading -/

/-- The number that the digits spell. -/
def digits (s : List Char) : ℕ := Nat.ofDigitChars 10 s 0

/-- The sign, and what follows it. -/
def splitSign : List Char → Bool × List Char
  | '-' :: s => (true, s)
  | '+' :: s => (false, s)
  | s => (false, s)

/-- The digits in front, and what follows them. -/
def splitDigits (s : List Char) : List Char × List Char :=
  (s.takeWhile Char.isDigit, s.dropWhile Char.isDigit)

/-- The digits behind a point, and what follows them. -/
def splitFraction : List Char → List Char × List Char
  | '.' :: s => splitDigits s
  | s => ([], s)

/-- The exponent, which may be missing. -/
def parseExponent : List Char → Option ℤ
  | [] => some 0
  | c :: s =>
    if c = 'e' ∨ c = 'E' then
      let (negative, s) := splitSign s
      if s ≠ [] ∧ s.all Char.isDigit then
        some (if negative then -digits s else digits s)
      else none
    else none

/-- A number without its sign. -/
def parseMagnitude (s : List Char) : Option ℚ :=
  let (whole, s) := splitDigits s
  let (fraction, s) := splitFraction s
  if whole ++ fraction = [] then none
  else (parseExponent s).map fun e =>
    (digits (whole ++ fraction) : ℚ) * 10 ^ (e - (fraction.length : ℤ))

/-- A finite number. -/
def parse (s : List Char) : Option ℚ :=
  let (negative, s) := splitSign s
  (parseMagnitude s).map fun x => if negative then -x else x

theorem splitDigits_append {s t : List Char} (hs : ∀ c ∈ s, c.isDigit = true)
    (ht : ∀ c ∈ t.head?, c.isDigit = false) : splitDigits (s ++ t) = (s, t) := by
  have hstop : t.takeWhile Char.isDigit = [] ∧ t.dropWhile Char.isDigit = t := by
    cases t with
    | nil => exact ⟨rfl, rfl⟩
    | cons c t =>
      have hc : c.isDigit = false := ht c rfl
      simp [hc]
  rw [splitDigits, List.takeWhile_append_of_pos hs, List.dropWhile_append_of_pos hs, hstop.1,
    hstop.2, List.append_nil]

theorem splitSign_of_digit {c : Char} (hc : c.isDigit = true) (s : List Char) :
    splitSign (c :: s) = (false, c :: s) := by
  unfold splitSign
  split
  · rename_i h
    cases h
    exact absurd hc (by decide)
  · rename_i h
    cases h
    exact absurd hc (by decide)
  · rfl

/-! ## Fixed point -/

/-- `n`, with its last `d` digits behind a point. -/
def formatFixed (d n : ℕ) : List Char :=
  Nat.toDigits 10 (n / 10 ^ d) ++ '.' :: (Nat.toDigits 10 (n % 10 ^ d)).leftpad d '0'

theorem isDigit_of_mem_leftpad {d n : ℕ} {c : Char}
    (hc : c ∈ (Nat.toDigits 10 n).leftpad d '0') : c.isDigit = true := by
  rcases List.mem_append.mp hc with hzero | hdigit
  · rw [List.eq_of_mem_replicate hzero]
    rfl
  · exact isDigit_of_mem_toDigits hdigit

/-- A number that fits is padded to the width. -/
theorem length_leftpad_toDigits {d n : ℕ} (hd : 0 < d) (hn : n < 10 ^ d) :
    ((Nat.toDigits 10 n).leftpad d '0').length = d := by
  rw [List.length_leftpad]
  exact max_eq_left ((Nat.length_toDigits_le_iff (by norm_num) hd).mpr hn)

/-- The padding does not count. -/
theorem digits_append_leftpad (whole : List Char) {d n : ℕ} (hd : 0 < d) (hn : n < 10 ^ d) :
    digits (whole ++ (Nat.toDigits 10 n).leftpad d '0') = digits whole * 10 ^ d + n := by
  have hvalue : digits ((Nat.toDigits 10 n).leftpad d '0') = n := by
    rw [digits, List.leftpad, Nat.ofDigitChars_append, Nat.ofDigitChars_replicate_zero, mul_zero,
      Nat.ofDigitChars_ten_toDigits]
  rw [digits, Nat.ofDigitChars_append, Nat.ofDigitChars_eq_ofDigitChars_zero,
    length_leftpad_toDigits hd hn, ← digits, ← digits, hvalue, mul_comm]

theorem parseMagnitude_formatFixed {d : ℕ} (hd : 0 < d) (n : ℕ) :
    parseMagnitude (formatFixed d n) = some ((n : ℚ) / 10 ^ d) := by
  have hmod : n % 10 ^ d < 10 ^ d := Nat.mod_lt _ (by positivity)
  have hwhole : splitDigits (formatFixed d n) = (Nat.toDigits 10 (n / 10 ^ d),
      '.' :: (Nat.toDigits 10 (n % 10 ^ d)).leftpad d '0') :=
    splitDigits_append (fun c hc => isDigit_of_mem_toDigits hc) (by simp)
  have hfraction : splitFraction ('.' :: (Nat.toDigits 10 (n % 10 ^ d)).leftpad d '0') =
      ((Nat.toDigits 10 (n % 10 ^ d)).leftpad d '0', []) := by
    have hsplit := splitDigits_append (t := []) (fun c hc => isDigit_of_mem_leftpad hc)
      (by simp) (s := (Nat.toDigits 10 (n % 10 ^ d)).leftpad d '0')
    rwa [List.append_nil] at hsplit
  have hdigits : digits (Nat.toDigits 10 (n / 10 ^ d) ++
      (Nat.toDigits 10 (n % 10 ^ d)).leftpad d '0') = n := by
    rw [digits_append_leftpad _ hd hmod, digits, Nat.ofDigitChars_ten_toDigits, Nat.div_add_mod']
  simp only [parseMagnitude, hwhole, hfraction, hdigits, parseExponent, Option.map_some,
    List.append_eq_nil_iff, Nat.toDigits_ne_nil, false_and, if_false,
    length_leftpad_toDigits hd hmod]
  rw [zero_sub, zpow_neg, zpow_natCast, div_eq_mul_inv]

/-- A whole number. -/
theorem parseMagnitude_toDigits (n : ℕ) : parseMagnitude (Nat.toDigits 10 n) = some (n : ℚ) := by
  have hwhole : splitDigits (Nat.toDigits 10 n) = (Nat.toDigits 10 n, []) := by
    have hsplit := splitDigits_append (t := []) (fun c hc => isDigit_of_mem_toDigits hc)
      (by simp) (s := Nat.toDigits 10 n)
    rwa [List.append_nil] at hsplit
  have hdigits : digits (Nat.toDigits 10 n) = n := Nat.ofDigitChars_ten_toDigits
  simp [parseMagnitude, hwhole, splitFraction, hdigits, parseExponent]

theorem parse_of_digit {c : Char} (hc : c.isDigit = true) (s : List Char) :
    parse (c :: s) = parseMagnitude (c :: s) := by
  simp [parse, splitSign_of_digit hc]

theorem parse_neg (s : List Char) : parse ('-' :: s) = (parseMagnitude s).map (- ·) := rfl

theorem parse_toDigits_append (n : ℕ) (s : List Char) :
    parse (Nat.toDigits 10 n ++ s) = parseMagnitude (Nat.toDigits 10 n ++ s) := by
  obtain ⟨c, t, ht⟩ : ∃ c t, Nat.toDigits 10 n = c :: t :=
    List.exists_cons_of_ne_nil Nat.toDigits_ne_nil
  rw [ht]
  exact parse_of_digit (isDigit_of_mem_toDigits (n := n) (ht ▸ List.mem_cons_self)) (t ++ s)

/-- Digits, a point and a digit. -/
theorem parseMagnitude_tenths (n : ℕ) :
    parseMagnitude (Nat.toDigits 10 (n / 10) ++ ['.', (n % 10).digitChar]) =
      some ((n : ℚ) / 10) := by
  have hlast : (Nat.toDigits 10 (n % 10)).leftpad 1 '0' = [(n % 10).digitChar] := by
    rw [Nat.toDigits_of_lt_base (Nat.mod_lt _ (by norm_num))]
    rfl
  have hfixed := parseMagnitude_formatFixed Nat.one_pos n
  rwa [formatFixed, pow_one, pow_one, hlast] at hfixed

/-- **Round trip.** A number that is written with one decimal is read back rounded. -/
theorem parse_formatTenths (x : ℚ) : parse (formatTenths x) = some (toTenths x) := by
  unfold parse formatTenths toTenths
  by_cases hneg : x < 0
  · have hsign : splitSign ('-' :: (Nat.toDigits 10 (tenths x / 10) ++
        ['.', (tenths x % 10).digitChar])) = (true, Nat.toDigits 10 (tenths x / 10) ++
        ['.', (tenths x % 10).digitChar]) := rfl
    simp [hneg, hsign, parseMagnitude_tenths]
  · have hbody := parse_toDigits_append (tenths x / 10) ['.', (tenths x % 10).digitChar]
    rw [parseMagnitude_tenths] at hbody
    simpa [hneg, parse] using hbody

end Decimal
