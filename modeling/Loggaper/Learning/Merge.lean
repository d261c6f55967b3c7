import Loggaper.Helper
import Loggaper.Scoring.Config

/-!
# Learned thresholds

The learning engine stores a patch; `merge_thresholds` puts it on top of the configured thresholds
each time a token is scored, and clamps it there. A stored value takes effect as it is when the
clamp leaves it alone.

Main result: `mergeThresholds_wellFormed`, what a merge keeps of the base, whatever is stored.
-/

namespace Loggaper

/-- Optional overrides on top of the configured thresholds. -/
structure FeatureThresholdPatch where
  buyersLow : Option ℕ := none
  volumeOkSolMult : Option ℚ := none
  smartWallet3plusMin : Option ℕ := none
  smartWallet1plusMin : Option ℕ := none
  deriving DecidableEq

namespace FeatureThresholds

/-- The least `buyers_low` that takes effect: two below the base. -/
def buyersLowLo (base : FeatureThresholds) : ℕ := max (base.buyersLow - 2) 1

/-- The largest: two above the base, and below `buyers_mid`. -/
def buyersLowHi (base : FeatureThresholds) : ℕ :=
  min (min (base.buyersLow + 2) u64Max) (max (base.buyersMid - 1) 1)

def clampBuyersLow (base : FeatureThresholds) (v : ℕ) : ℕ :=
  min (max v base.buyersLowLo) base.buyersLowHi

end FeatureThresholds

def clampVolumeMult (m : ℚ) : ℚ := max (17 / 20) (min m (23 / 20))

def clampSmart3plus (high : ℕ) : ℕ := max 2 (min high 8)

/-- Merge the base thresholds with the learned patch. -/
def mergeThresholds (base : FeatureThresholds) (patch : FeatureThresholdPatch) :
    FeatureThresholds :=
  { base with
    buyersLow := match patch.buyersLow with
      | some v => base.clampBuyersLow v
      | none => base.buyersLow
    volumeOkSol := match patch.volumeOkSolMult with
      | some m => max (base.volumeOkSol * clampVolumeMult m) 1
      | none => base.volumeOkSol
    smartWallet3plusMin := match patch.smartWallet3plusMin with
      | some high => clampSmart3plus high
      | none => base.smartWallet3plusMin
    smartWallet1plusMin := match patch.smartWallet3plusMin, patch.smartWallet1plusMin with
      | some high, low =>
        min (low.getD base.smartWallet1plusMin) (max (clampSmart3plus high - 1) 1)
      | none, some low => max 1 (min low (max (base.smartWallet3plusMin - 1) 1))
      | none, none => base.smartWallet1plusMin }

namespace FeatureThresholds

variable (base : FeatureThresholds)

theorem one_le_buyersLowLo : 1 ≤ base.buyersLowLo := le_max_right _ _

theorem buyersLowHi_le : base.buyersLowHi ≤ u64Max := (min_le_left _ _).trans (min_le_right _ _)

/-- What the clamp leaves alone. If the bounds are crossed this is the upper one only. -/
theorem clampBuyersLow_eq_self {v : ℕ} (hv : base.buyersLowLo ≤ v) (hv' : v ≤ base.buyersLowHi) :
    base.clampBuyersLow v = v := by
  rw [clampBuyersLow, max_eq_left hv, min_eq_left hv']

theorem le_of_clampBuyersLow_eq_self {v : ℕ} (h : base.clampBuyersLow v = v) :
    v ≤ base.buyersLowHi := by
  rw [← h]
  exact min_le_right _ _

theorem lo_le_of_clampBuyersLow_eq_self {v : ℕ} (hcross : base.buyersLowLo ≤ base.buyersLowHi)
    (h : base.clampBuyersLow v = v) : base.buyersLowLo ≤ v := by
  rw [← h]
  exact le_min (le_max_right _ _) hcross

/-- Crossed bounds leave one value for every patch. -/
theorem clampBuyersLow_of_crossed (hcross : base.buyersLowHi < base.buyersLowLo) (v : ℕ) :
    base.clampBuyersLow v = base.buyersLowHi :=
  min_eq_right (hcross.le.trans (le_max_right _ _))

theorem clampBuyersLow_of_le_lo {v : ℕ} (hv : v ≤ base.buyersLowLo) :
    base.clampBuyersLow v = base.clampBuyersLow base.buyersLowLo := by
  rw [clampBuyersLow, clampBuyersLow, max_eq_right hv, max_self]

theorem clampBuyersLow_of_hi_le {v : ℕ} (hv : base.buyersLowHi ≤ v) :
    base.clampBuyersLow v = base.buyersLowHi :=
  min_eq_right (hv.trans (le_max_left _ _))

end FeatureThresholds

/-! ## Merged thresholds are well formed -/

/-- Thresholds that a configuration may have: each lower bound below the upper one, and no negative
volume. -/
structure FeatureThresholds.Ordered (t : FeatureThresholds) : Prop where
  one_le_buyers : 1 ≤ t.buyersLow
  buyers : t.buyersLow < t.buyersMid
  buyers_fit : t.buyersMid ≤ u64Max
  one_le_smart : 1 ≤ t.smartWallet1plusMin
  smart : t.smartWallet1plusMin < t.smartWallet3plusMin
  volume : 0 ≤ t.volumeOkSol

/-- `t` is near the base and in order, in every field that can be learned. -/
structure StaysWellFormed (base t : FeatureThresholds) : Prop where
  buyers_near : base.buyersLow ≤ t.buyersLow + 2 ∧ t.buyersLow ≤ base.buyersLow + 2
  buyers : t.buyersLow < t.buyersMid
  volume_near : |t.volumeOkSol - base.volumeOkSol| ≤ 3 / 20 * base.volumeOkSol
  one_le_smart : 1 ≤ t.smartWallet1plusMin
  smart : t.smartWallet1plusMin < t.smartWallet3plusMin

/-- The same with the floor of one SOL under a learned volume. -/
structure MergesWellFormed (base : FeatureThresholds) (patch : FeatureThresholdPatch)
    (t : FeatureThresholds) : Prop where
  buyers_near : base.buyersLow ≤ t.buyersLow + 2 ∧ t.buyersLow ≤ base.buyersLow + 2
  buyers : t.buyersLow < t.buyersMid
  volume_near : |t.volumeOkSol - base.volumeOkSol| ≤ 3 / 20 * base.volumeOkSol ∨
    patch.volumeOkSolMult.isSome = true ∧ base.volumeOkSol * (23 / 20) < 1 ∧ t.volumeOkSol = 1
  one_le_smart : patch.smartWallet3plusMin = none ∨ patch.smartWallet1plusMin ≠ some 0 →
    1 ≤ t.smartWallet1plusMin
  smart : t.smartWallet1plusMin < t.smartWallet3plusMin

namespace FeatureThresholds.Ordered

variable {base : FeatureThresholds} (h : base.Ordered)
include h

/-- The bounds of `buyers_low` are not crossed, and stay near the base and below `buyers_mid`. -/
theorem clampBuyersLow_bounds (v : ℕ) :
    base.buyersLow ≤ base.clampBuyersLow v + 2 ∧ base.clampBuyersLow v ≤ base.buyersLow + 2 ∧
      base.clampBuyersLow v < base.buyersMid := by
  obtain ⟨hone, hmid, hfit, -, -, -⟩ := h
  unfold clampBuyersLow buyersLowLo buyersLowHi
  generalize u64Max = largest at *
  omega

end FeatureThresholds.Ordered

theorem clampVolumeMult_bounds (m : ℚ) :
    17 / 20 ≤ clampVolumeMult m ∧ clampVolumeMult m ≤ 23 / 20 :=
  ⟨le_max_left _ _, max_le (by norm_num) (min_le_right _ _)⟩

/-- A learned volume is within 15% of the base, unless the floor is above all of that. -/
theorem learnedVolume_near {v : ℚ} (hv : 0 ≤ v) (m : ℚ) :
    |max (v * clampVolumeMult m) 1 - v| ≤ 3 / 20 * v ∨
      v * (23 / 20) < 1 ∧ max (v * clampVolumeMult m) 1 = 1 := by
  obtain ⟨hlow, hhigh⟩ := clampVolumeMult_bounds m
  have hleast : v * (17 / 20) ≤ v * clampVolumeMult m := mul_le_mul_of_nonneg_left hlow hv
  have hmost : v * clampVolumeMult m ≤ v * (23 / 20) := mul_le_mul_of_nonneg_left hhigh hv
  by_cases hfloor : v * (23 / 20) < 1
  · exact .inr ⟨hfloor, max_eq_right (hmost.trans hfloor.le)⟩
  · left
    have hle : max (v * clampVolumeMult m) 1 ≤ v * (23 / 20) := max_le hmost (not_lt.mp hfloor)
    have hge : v * (17 / 20) ≤ max (v * clampVolumeMult m) 1 := hleast.trans (le_max_left _ _)
    rw [abs_le]
    constructor <;> linarith

theorem clampSmart3plus_ge (high : ℕ) : 2 ≤ clampSmart3plus high := le_max_left _ _

/-- **Merged thresholds are well formed**, but for a smart-wallet minimum of zero that is learned
together with the upper one, and for the floor of the volume. -/
theorem mergeThresholds_wellFormed {base : FeatureThresholds} (h : base.Ordered)
    (patch : FeatureThresholdPatch) :
    MergesWellFormed base patch (mergeThresholds base patch) := by
  obtain ⟨buyersLow, volumeMult, smart3plus, smart1plus⟩ := patch
  have hone := h.one_le_smart
  have hsmart := h.smart
  constructor
  · cases buyersLow with
    | none => exact ⟨Nat.le_add_right _ _, Nat.le_add_right _ _⟩
    | some v => exact ⟨(h.clampBuyersLow_bounds v).1, (h.clampBuyersLow_bounds v).2.1⟩
  · cases buyersLow with
    | none => exact h.buyers
    | some v => exact (h.clampBuyersLow_bounds v).2.2
  · cases volumeMult with
    | none =>
      left
      show |base.volumeOkSol - base.volumeOkSol| ≤ _
      rw [sub_self, abs_zero]
      exact mul_nonneg (by norm_num) h.volume
    | some m =>
      rcases learnedVolume_near h.volume m with hnear | ⟨hfloor, hone⟩
      · exact .inl hnear
      · exact .inr ⟨rfl, hfloor, hone⟩
  · intro hzero
    cases smart3plus with
    | none =>
      cases smart1plus with
      | none => exact hone
      | some low => exact le_max_left _ _
    | some high =>
      have hge := clampSmart3plus_ge high
      -- the branch of a learned upper bound takes the lower one as it is
      cases smart1plus with
      | none =>
        show 1 ≤ min base.smartWallet1plusMin (max (clampSmart3plus high - 1) 1)
        omega
      | some low =>
        have hlow : low ≠ 0 := by simpa using hzero
        show 1 ≤ min low (max (clampSmart3plus high - 1) 1)
        omega
  · cases smart3plus with
    | none =>
      cases smart1plus with
      | none => exact hsmart
      | some low =>
        show max 1 (min low (max (base.smartWallet3plusMin - 1) 1)) < base.smartWallet3plusMin
        omega
    | some high =>
      have hge := clampSmart3plus_ge high
      show min (smart1plus.getD base.smartWallet1plusMin) (max (clampSmart3plus high - 1) 1) <
        clampSmart3plus high
      omega

theorem defaults_ordered : ({} : FeatureThresholds).Ordered := by
  constructor <;> norm_num [u64Max]

theorem mergeThresholds_wellFormed_defaults :
    MergesWellFormed {} ⟨some 9, some 2, some 1, some 0⟩
      (mergeThresholds {} ⟨some 9, some 2, some 1, some 0⟩) :=
  mergeThresholds_wellFormed defaults_ordered _

/-- **A volume of half a SOL doubles.** A learned factor of one raises it to the floor. -/
theorem smallVolume_doubled :
    ¬ ∀ (base : FeatureThresholds) (patch : FeatureThresholdPatch), base.Ordered →
      StaysWellFormed base (mergeThresholds base patch) := by
  intro hall
  have hbase : ({ volumeOkSol := 1 / 2 } : FeatureThresholds).Ordered := by
    constructor <;> norm_num [u64Max]
  have hnear := (hall _ { volumeOkSolMult := some 1 } hbase).volume_near
  revert hnear
  decide +kernel

end Loggaper
