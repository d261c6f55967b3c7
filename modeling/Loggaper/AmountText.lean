import Loggaper.Helper
import Loggaper.Lib.Decimal

/-!
# The text of an amount

`Amount` and `SignedAmount` are shown as fixed-point numbers: the value is split at a power of ten
and the fraction is padded to the decimals. The texts are read back with `Decimal.parse`.

Main results: `amountText_iff`; the text of a negative amount in `negative_unreadable`.
-/

namespace Loggaper

/-- `10u64.pow(decimals as u32)` of the release build. -/
def scaleU64 (decimals : ℕ) : ℕ := 10 ^ decimals % 2 ^ 64

/-- `Display for Amount`. The division stops the task (`none`) when the scale wraps to zero. -/
def Amount.display (a : Amount) : Option (List Char) :=
  let scale := scaleU64 a.decimals
  if scale = 0 then none
  else
    let intPart := a.value / scale
    let fracPart := a.value % scale
    if a.decimals = 0 then some (Nat.toDigits 10 intPart)
    else
      some (Nat.toDigits 10 intPart ++
        '.' :: (Nat.toDigits 10 fracPart).leftpad a.decimals '0')

/-- An `i64` value with its decimals. -/
structure SignedAmount where
  value : ℤ
  decimals : ℕ
  deriving DecidableEq, Repr

/-- `Display for SignedAmount`. -/
def SignedAmount.display (a : SignedAmount) : Option (List Char) :=
  let scale := scaleU64 a.decimals
  let absValue := a.value.natAbs
  if scale = 0 then none
  else
    let intPart := absValue / scale
    let fracPart := absValue % scale
    if a.value < 0 then
      if a.decimals = 0 then some ('-' :: Nat.toDigits 10 intPart)
      else
        -- the point is followed by a space
        some ('-' :: (Nat.toDigits 10 intPart ++
          '.' :: ' ' :: (Nat.toDigits 10 fracPart).leftpad a.decimals '0'))
    else if a.decimals = 0 then some (Nat.toDigits 10 intPart)
    else
      some (Nat.toDigits 10 intPart ++
        '.' :: (Nat.toDigits 10 fracPart).leftpad a.decimals '0')

/-! ## Amounts -/

/-- The scale of a `u64` does not wrap. -/
theorem scaleU64_eq {decimals : ℕ} (h : decimals ≤ 19) : scaleU64 decimals = 10 ^ decimals := by
  refine Nat.mod_eq_of_lt ?_
  calc 10 ^ decimals ≤ 10 ^ 19 := Nat.pow_le_pow_right (by norm_num) h
    _ < 2 ^ 64 := by norm_num

/-- The text of `value / 10 ^ decimals`. -/
def amountText (value decimals : ℕ) : List Char :=
  if decimals = 0 then Nat.toDigits 10 value else Decimal.formatFixed decimals value

theorem display_amount (value : ℕ) {decimals : ℕ} (h : decimals ≤ 19) :
    (Amount.mk value decimals).display = some (amountText value decimals) := by
  have hpos : ¬ 10 ^ decimals = 0 := by positivity
  simp only [Amount.display, scaleU64_eq h, if_neg hpos]
  unfold amountText
  split_ifs with hzero
  · rw [hzero, pow_zero, Nat.div_one]
  · rfl

theorem parseMagnitude_amountText (value decimals : ℕ) :
    Decimal.parseMagnitude (amountText value decimals) = some ((value : ℚ) / 10 ^ decimals) := by
  unfold amountText
  split_ifs with hzero
  · rw [hzero, pow_zero, div_one, Decimal.parseMagnitude_toDigits]
  · exact Decimal.parseMagnitude_formatFixed (Nat.pos_of_ne_zero hzero) value

theorem parse_amountText (value decimals : ℕ) :
    Decimal.parse (amountText value decimals) = some ((value : ℚ) / 10 ^ decimals) := by
  rw [← parseMagnitude_amountText]
  unfold amountText
  split_ifs
  · simpa using Decimal.parse_toDigits_append value []
  · exact Decimal.parse_toDigits_append _ _

theorem amountText_injective {decimals value other : ℕ}
    (h : amountText value decimals = amountText other decimals) : value = other := by
  have hparse := congrArg Decimal.parse h
  rw [parse_amountText, parse_amountText, Option.some_inj] at hparse
  have hscale : (10 : ℚ) ^ decimals ≠ 0 := by positivity
  exact_mod_cast (div_left_inj' hscale).mp hparse

/-! ## Signed amounts -/

theorem display_signed {value : ℤ} {decimals : ℕ} (h : decimals ≤ 19)
    (hplain : 0 ≤ value ∨ decimals = 0) :
    (SignedAmount.mk value decimals).display =
      some (if value < 0 then '-' :: amountText value.natAbs decimals
        else amountText value.natAbs decimals) := by
  have hpos : ¬ 10 ^ decimals = 0 := by positivity
  simp only [SignedAmount.display, scaleU64_eq h, if_neg hpos]
  unfold amountText
  by_cases hzero : decimals = 0
  · simp only [hzero, pow_zero, Nat.div_one, if_true]
    split_ifs <;> rfl
  · have hneg : ¬ value < 0 := not_lt.mpr (hplain.resolve_right hzero)
    simp only [hzero, hneg, if_false]
    rfl

/-- A point and a space. -/
theorem display_negative {value : ℤ} {decimals : ℕ} (h : decimals ≤ 19) (hneg : value < 0)
    (hzero : decimals ≠ 0) :
    (SignedAmount.mk value decimals).display =
      some ('-' :: (Nat.toDigits 10 (value.natAbs / 10 ^ decimals) ++
        '.' :: ' ' :: (Nat.toDigits 10 (value.natAbs % 10 ^ decimals)).leftpad decimals '0')) := by
  have hpos : ¬ 10 ^ decimals = 0 := by positivity
  simp only [SignedAmount.display, scaleU64_eq h, if_neg hpos, if_pos hneg, if_neg hzero]

/-- What follows the space is no exponent. -/
theorem negative_unreadable (n : ℕ) (fraction : List Char) :
    Decimal.parse ('-' :: (Nat.toDigits 10 n ++ '.' :: ' ' :: fraction)) = none := by
  have hwhole : Decimal.splitDigits (Nat.toDigits 10 n ++ '.' :: ' ' :: fraction) =
      (Nat.toDigits 10 n, '.' :: ' ' :: fraction) :=
    Decimal.splitDigits_append (fun c hc => Decimal.isDigit_of_mem_toDigits hc) (by simp)
  have hfraction : Decimal.splitFraction ('.' :: ' ' :: fraction) = ([], ' ' :: fraction) :=
    Decimal.splitDigits_append (s := []) (by simp) (by simp)
  rw [Decimal.parse_neg, Decimal.parseMagnitude]
  simp [hwhole, hfraction, Decimal.parseExponent]

/-! ## The texts are exact -/

/-- The text denotes the amount, and no other value has it. -/
structure AmountExact (value decimals : ℕ) : Prop where
  denotes : ∃ text, (Amount.mk value decimals).display = some text ∧
    Decimal.parse text = some ((value : ℚ) / 10 ^ decimals)
  determines : ∀ other, (Amount.mk other decimals).display = (Amount.mk value decimals).display →
    other = value

/-- The text of the amount without its sign, after a minus for a negative one, and it reads as the
value. -/
def SignedExact (value : ℤ) (decimals : ℕ) : Prop :=
  ∃ text, (Amount.mk value.natAbs decimals).display = some text ∧
    (SignedAmount.mk value decimals).display = some (if value < 0 then '-' :: text else text) ∧
    Decimal.parse (if value < 0 then '-' :: text else text) = some ((value : ℚ) / 10 ^ decimals)

theorem amountExact (value : ℕ) {decimals : ℕ} (h : decimals ≤ 19) :
    AmountExact value decimals where
  denotes := ⟨_, display_amount value h, parse_amountText value decimals⟩
  determines other heq := by
    rw [display_amount _ h, display_amount _ h, Option.some_inj] at heq
    exact amountText_injective heq

theorem signedExact {value : ℤ} {decimals : ℕ} (h : decimals ≤ 19)
    (hplain : 0 ≤ value ∨ decimals = 0) : SignedExact value decimals := by
  refine ⟨_, display_amount _ h, display_signed h hplain, ?_⟩
  split_ifs with hneg
  · have habs : (value.natAbs : ℚ) = -(value : ℚ) := by
      rw [Nat.cast_natAbs, abs_of_neg hneg, Int.cast_neg]
    rw [Decimal.parse_neg, parseMagnitude_amountText, habs, Option.map_some, neg_div, neg_neg]
  · have habs : (value.natAbs : ℚ) = (value : ℚ) := by
      rw [Nat.cast_natAbs, abs_of_nonneg (not_lt.mp hneg)]
    rw [parse_amountText, habs]

theorem not_signedExact {value : ℤ} {decimals : ℕ} (h : decimals ≤ 19) (hneg : value < 0)
    (hzero : decimals ≠ 0) : ¬ SignedExact value decimals := by
  rintro ⟨text, -, hdisplay, hparse⟩
  rw [display_negative h hneg hzero, Option.some_inj] at hdisplay
  rw [← hdisplay, negative_unreadable] at hparse
  exact Option.some_ne_none _ hparse.symm

/-- **The texts are exact**, the negative ones when there is no fraction. -/
theorem amountText_iff (n : ℕ) (value : ℤ) {decimals : ℕ} (h : decimals ≤ 19) :
    AmountExact n decimals ∧ (SignedExact value decimals ↔ 0 ≤ value ∨ decimals = 0) := by
  refine ⟨amountExact n h, fun hexact => ?_, signedExact h⟩
  by_contra hplain
  rw [not_or, not_le] at hplain
  exact not_signedExact h hplain.1 hplain.2 hexact

theorem amountText_iff_lamports :
    AmountExact 1_500_000_000 9 ∧ (SignedExact 1_500_000_000 9 ↔ (0 : ℤ) ≤ 1_500_000_000 ∨ 9 = 0) :=
  amountText_iff 1_500_000_000 1_500_000_000 (by decide)

/-- Minus one and a half SOL. -/
theorem negativeAmount_spaced :
    (SignedAmount.mk (-1_500_000_000) 9).display = some "-1. 500000000".toList ∧
      ¬ SignedExact (-1_500_000_000) 9 := by
  have hdisplay : (SignedAmount.mk (-1_500_000_000) 9).display = some "-1. 500000000".toList := by
    decide +kernel
  exact ⟨hdisplay, not_signedExact (by decide) (by decide) (by decide)⟩

end Loggaper
