import Loggaper.Pipeline.Continuation
import Loggaper.Scoring.GateEvidence

/-!
# The gates of a live entry

A live buy passes a chain of gates between its score and its size. Each gate names the stage and the
reason under which the skip is logged; the first one that skips ends the chain.

- `liveGateSkip_eq_none_iff`: what a token has shown that passes them all.
-/

namespace Loggaper

inductive ExecutionMode
  /-- Simulated trading in memory. -/
  | demo
  | live
  deriving DecidableEq

/-- The lowest tier that a live buy may have. -/
inductive MinBuyTier
  | a | aPlus
  deriving DecidableEq

structure WeakASyntheticPumpConfig where
  enabled : Bool := true
  buyToSellRatioGt : ℚ := 10
  sellVolumeWindowSolLt : ℚ := 2

/-- The weak-A gate with the settings of its hard skips. -/
structure WeakAHardSkipConfig extends WeakATierGateConfig where
  minBuyVolumeSol : ℚ := 8
  blockRepeatDumpSlicesGe : ℕ := 1
  syntheticPump : WeakASyntheticPumpConfig := {}

/-- The settings of the live gates in the scoring configuration. -/
structure LiveGateConfig where
  momentumGate : MomentumGateConfig := {}
  minimumTierForBuy : MinBuyTier := .a
  spamDevRequireAPlus : Bool := true
  weakAGate : WeakAHardSkipConfig := {}

/-- Where the pipeline leaves a token, as the learning log has it. -/
structure Skip where
  stage : String
  reason : String
  deriving DecidableEq

/-! ## The gates -/

/-- Little or fake selling against the buys. A quotient by zero is not small. -/
def entrySkipReason (f : TokenFeatures) (cfg : AntiRugConfig) : Option String :=
  if !cfg.entryGateEnabled || decide (f.buyVolumeSol < cfg.minBuyVolumeForGatesSol) then none
  else if f.sellVolumeWindowSol < cfg.minSellVolumeWindowSol then some "low_sell_side_volume"
  else if f.buyVolumeSol ≠ 0 ∧
      f.sellVolumeWindowSol / f.buyVolumeSol < cfg.minFeeFlowRatio then some "low_fee_flow_ratio"
  else if f.sellPressureScore < cfg.minSellPressureScore then some "low_sell_pressure"
  else if cfg.buyToSellMaxWithoutMinSellVol ≤ f.buyToSellRatio ∧
      f.sellVolumeWindowSol < cfg.buyToSellMinSellVolSol then some "fake_buy_to_sell_ratio"
  else none

/-- A dump slice or a low volume on a weak A. -/
def weakAHardSkipReason (cfg : WeakAHardSkipConfig) (tier : Tier) (score : ℤ)
    (smartWalletCount : ℕ) (f : TokenFeatures) (items : ScoreItems) : Option String :=
  if !weakAProfileMatch cfg.toWeakATierGateConfig tier score smartWalletCount f.devCategory items
  then none
  else if cfg.blockRepeatDumpSlicesGe ≤ f.repeatDumpSlices then some "weak_a_dump_in_tape"
  else if f.buyVolumeSol < cfg.minBuyVolumeSol then some "weak_a_low_volume"
  else none

/-- Inflated buys without a flow of sells, no smart wallet and a weak history. -/
def weakASyntheticPumpSkipReason (cfg : WeakASyntheticPumpConfig) (tier : Tier)
    (smartWalletCount : ℕ) (f : TokenFeatures) (items : ScoreItems) : Option String :=
  if !cfg.enabled || tier != .a then none
  else if smartWalletCount ≠ 0 then none
  else if !items.has "dev_history_weak" then none
  else if f.buyToSellRatio ≤ cfg.buyToSellRatioGt then none
  else if cfg.sellVolumeWindowSolLt ≤ f.sellVolumeWindowSol then none
  else some "weak_a_synthetic_pump"

/-- An A+ needs a smart wallet. -/
def aplusRugGateSkipReason (tier : Tier) (smartWalletCount : ℕ) (buyToSellRatio : ℚ) :
    Option String :=
  if tier ≠ .aPlus then none
  else if smartWalletCount < 1 then some "aplus_no_smart_required"
  else if smartWalletCount = 0 ∧ 10 < buyToSellRatio then some "aplus_no_smart_fake_b2s"
  else none

/-- In percent. -/
def tierAMinVelocityPct : ℚ := 3

def tierALowVelocitySkipReason (tier : Tier) (velocityPct : ℚ) : Option String :=
  if tier = .a ∧ velocityPct < tierAMinVelocityPct then some "low_velocity_a_setup" else none

/-- Below the configured tier. Tier B has a lane of its own. -/
def belowMinimumTier (minimum : MinBuyTier) (tier : Tier) : Bool :=
  minimum == .aPlus && tier != .aPlus && tier != .b

/-- A spam developer's token below A+. -/
def spamDevWeak (requireAPlus isSpamDev : Bool) (tier : Tier) : Bool :=
  isSpamDev && requireAPlus && tier != .aPlus

/-! ## The chain -/

section
variable (cfg : LiveGateConfig) (antiRug : AntiRugConfig) (isSpamDev : Bool) (entry : ScoredEntry)

/-- What each gate says, in the order of the pipeline. -/
def liveGates : List (Option Skip) :=
  let f := entry.features
  let tier := entry.breakdown.tier
  let items := entry.breakdown.items
  [ if skipsForMomentum cfg.momentumGate entry.smartCount f entry.breakdown then
      some ⟨"live_gate_momentum", "require_momentum_good"⟩ else none,
    (entrySkipReason f antiRug).map (⟨"anti_rug", ·⟩),
    if belowMinimumTier cfg.minimumTierForBuy tier then
      some ⟨"live_gate_tier", "minimum_tier_APlus"⟩ else none,
    if spamDevWeak cfg.spamDevRequireAPlus isSpamDev tier then
      some ⟨"spam_dev_weak", "spam_dev_require_a_plus"⟩ else none,
    (weakAHardSkipReason cfg.weakAGate tier entry.breakdown.total entry.smartCount f items).map
      (⟨"weak_a_gate", ·⟩),
    (weakASyntheticPumpSkipReason cfg.weakAGate.syntheticPump tier entry.smartCount f items).map
      (⟨"weak_a_synthetic_pump", ·⟩),
    (aplusRugGateSkipReason tier entry.smartCount f.buyToSellRatio).map (⟨"aplus_rug_gate", ·⟩),
    (tierALowVelocitySkipReason tier
      (momentumPeakPct f.initialMcapSol (max f.peakMcapSol f.currentMcapSol))).map
      (⟨"velocity_gate", ·⟩) ]

/-- The first gate that skips. -/
def liveGateSkip : Option Skip := (liveGates cfg antiRug isSpamDev entry).findSome? id

/-- What a token has shown that passes every gate. -/
structure PassesLiveGates : Prop where
  momentum : cfg.momentumGate.requireMomentumGood = true →
    momentumGoodSatisfied cfg.momentumGate entry.smartCount entry.features entry.breakdown = true
  two_sided : entrySkipReason entry.features antiRug = none
  minimum_tier : cfg.minimumTierForBuy = .aPlus →
    entry.breakdown.tier = .aPlus ∨ entry.breakdown.tier = .b
  spam_dev : isSpamDev = true → cfg.spamDevRequireAPlus = true → entry.breakdown.tier = .aPlus
  weak_a : weakAHardSkipReason cfg.weakAGate entry.breakdown.tier entry.breakdown.total
    entry.smartCount entry.features entry.breakdown.items = none
  no_pump : weakASyntheticPumpSkipReason cfg.weakAGate.syntheticPump entry.breakdown.tier
    entry.smartCount entry.features entry.breakdown.items = none
  smart_aPlus : entry.breakdown.tier = .aPlus → 1 ≤ entry.smartCount
  moving_a : entry.breakdown.tier = .a → tierAMinVelocityPct ≤ scoringMomentumPct entry.features

variable {cfg antiRug isSpamDev entry}

theorem aplusRugGateSkipReason_eq_none_iff {tier : Tier} {smart : ℕ} {b2s : ℚ} :
    aplusRugGateSkipReason tier smart b2s = none ↔ (tier = .aPlus → 1 ≤ smart) := by
  unfold aplusRugGateSkipReason
  by_cases htier : tier = .aPlus
  · by_cases hsmart : smart < 1
    · simp [htier, hsmart]
    · have hpos : 1 ≤ smart := not_lt.mp hsmart
      have hne : smart ≠ 0 := by omega
      simp [htier, hpos, hne]
  · simp [htier]

theorem tierALowVelocitySkipReason_eq_none_iff {tier : Tier} {velocity : ℚ} :
    tierALowVelocitySkipReason tier velocity = none ↔
      (tier = .a → tierAMinVelocityPct ≤ velocity) := by
  unfold tierALowVelocitySkipReason
  by_cases htier : tier = .a <;> simp [htier]

theorem belowMinimumTier_eq_false_iff {minimum : MinBuyTier} {tier : Tier} :
    belowMinimumTier minimum tier = false ↔
      (minimum = .aPlus → tier = .aPlus ∨ tier = .b) := by
  cases minimum <;> cases tier <;> decide

theorem spamDevWeak_eq_false_iff {requireAPlus isSpamDev : Bool} {tier : Tier} :
    spamDevWeak requireAPlus isSpamDev tier = false ↔
      (isSpamDev = true → requireAPlus = true → tier = .aPlus) := by
  cases requireAPlus <;> cases isSpamDev <;> cases tier <;> decide

theorem skipsForMomentum_eq_false_iff {gate : MomentumGateConfig} {smart : ℕ} {f : TokenFeatures}
    {breakdown : ScoreBreakdown} :
    skipsForMomentum gate smart f breakdown = false ↔
      (gate.requireMomentumGood = true → momentumGoodSatisfied gate smart f breakdown = true) := by
  unfold skipsForMomentum
  cases gate.requireMomentumGood <;> simp

theorem liveGateSkip_eq_none_iff :
    liveGateSkip cfg antiRug isSpamDev entry = none ↔
      PassesLiveGates cfg antiRug isSpamDev entry := by
  simp only [liveGateSkip, liveGates, List.findSome?_eq_none_iff, List.forall_mem_cons, id_eq,
    Option.map_eq_none_iff, ite_eq_right_iff, reduceCtorEq, imp_false, Bool.not_eq_true,
    skipsForMomentum_eq_false_iff, belowMinimumTier_eq_false_iff, spamDevWeak_eq_false_iff,
    aplusRugGateSkipReason_eq_none_iff, tierALowVelocitySkipReason_eq_none_iff]
  constructor
  · intro h
    obtain ⟨hmomentum, hsides, hminimum, hspam, hweak, hpump, hsmart, hmoving, -⟩ := h
    exact ⟨hmomentum, hsides, hminimum, hspam, hweak, hpump, hsmart, hmoving⟩
  · intro h
    exact ⟨h.momentum, h.two_sided, h.minimum_tier, h.spam_dev, h.weak_a, h.no_pump,
      h.smart_aPlus, h.moving_a, fun _ hmem => absurd hmem List.not_mem_nil⟩

end

end Loggaper
