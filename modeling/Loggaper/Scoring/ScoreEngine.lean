import Loggaper.Scoring.TokenFeatures

/-!
# The score engine

The features are turned into named points, their sum into a tier. A fresh developer's token leaves
the A tiers for a lane of its own: tier B if it passes that lane's gates, or skip. Sums of points
are `i32` and wrap.
-/

namespace Loggaper

/-! ## Anti-rug -/

/-- A+ on a thin pump with a low market cap is only an A. -/
def capTierForLowMcap (f : TokenFeatures) (cfg : AntiRugConfig) (tier : Tier) : Tier :=
  if !cfg.enabled || tier != .aPlus then tier
  else if f.peakMcapSol < cfg.lowMcapPeakSol && f.buyVolumeSol < cfg.lowMcapMinBuyVolumeSol then .a
  else tier

/-- Whether the buy-to-sell ratio may earn points. -/
def rewardsBuyToSellRatio (f : TokenFeatures) (cfg : AntiRugConfig) (ratioHigh : ℚ) : Bool :=
  if f.buyToSellRatio < ratioHigh then false
  else if !cfg.enabled then true
  else decide (cfg.buyToSellMinSellVolSol ≤ f.sellVolumeWindowSol) ||
    decide (f.buyToSellRatio < cfg.buyToSellMaxWithoutMinSellVol)

/-! ## The gates of the fresh lane -/

abbrev ScoreItems := List (String × ℤ)

def hasMomentumGood (items : ScoreItems) : Bool := items.any (·.1 == "momentum_good")

def hasMomentumOverheated (items : ScoreItems) : Bool := items.any (·.1 == "momentum_overheated")

/-- The lane of fresh developers. -/
def tierBDevEligible (f : TokenFeatures) (cfg : TierBGateConfig) : Bool :=
  if !cfg.enabled || f.isSpamDev then false else f.devCategory == .fresh

def tierBBaseGatesOk (cfg : TierBGateConfig) (f : TokenFeatures) : Bool :=
  cfg.enabled && decide (cfg.minSmartWallets ≤ f.smartWalletCount) &&
    decide (cfg.minBuyers ≤ f.buyerCount) && decide (cfg.minBuyVolumeSol ≤ f.buyVolumeSol)

def freshBVelocityPct (f : TokenFeatures) : ℚ :=
  momentumPeakPct f.initialMcapSol (max f.peakMcapSol f.currentMcapSol)

def tierBVelocityOk (cfg : TierBGateConfig) (f : TokenFeatures) : Bool :=
  cfg.minVelocityPct ≤ freshBVelocityPct f

/-- The gates of tier B. -/
def tierBEntryOk (cfg : TierBGateConfig) (f : TokenFeatures) (items : ScoreItems) : Bool :=
  tierBBaseGatesOk cfg f && hasMomentumGood items && tierBVelocityOk cfg f

/-- All gates but `momentum_good` pass. -/
def isMomentumOnlyTierBFail (cfg : TierBGateConfig) (f : TokenFeatures) (items : ScoreItems) :
    Bool :=
  tierBDevEligible f cfg && tierBBaseGatesOk cfg f && tierBVelocityOk cfg f &&
    !hasMomentumGood items

/-- An exceptional impulse when only the momentum gate fails. -/
def freshBHotOverrideOk (cfg : TierBGateConfig) (f : TokenFeatures) (items : ScoreItems) : Bool :=
  let ho := cfg.hotFreshOverride
  if !ho.enabled || !isMomentumOnlyTierBFail cfg f items then false
  else decide (ho.minBuyers ≤ f.buyerCount) && decide (ho.minBuyVolumeSol ≤ f.buyVolumeSol) &&
    decide (ho.minVelocityPct ≤ freshBVelocityPct f)

/-- Only `momentum_overheated` blocks the live momentum gate. -/
def isMomentumOnlyAaOverheated (items : ScoreItems) : Bool :=
  hasMomentumOverheated items && !hasMomentumGood items

def aaMomentumOverrideForTier (cfg : AAMomentumOverrideConfig) (tier : Tier) (items : ScoreItems) :
    Bool :=
  if !cfg.enabled || !isMomentumOnlyAaOverheated items then false
  else tier == .a || tier == .aPlus

/-! ## Points -/

/-- `i32` addition. -/
def wrapI32 (x : ℤ) : ℤ := Int.bmod x (2 ^ 32)

/-- `i32::saturating_mul`. -/
def saturatingMul (x k : ℤ) : ℤ := max (-2 ^ 31) (min (x * k) (2 ^ 31 - 1))

structure Score where
  total : ℤ := 0
  items : ScoreItems := []

namespace Score

/-- An item without points is not listed. -/
def add (s : Score) (name : String) (points : ℤ) : Score :=
  if points = 0 then s else ⟨wrapI32 (s.total + points), s.items ++ [(name, points)]⟩

def addIf (s : Score) (c : Bool) (name : String) (points : ℤ) : Score :=
  if c then s.add name points else s

end Score

/-- Momentum for scoring: the peak of the window against its first sample. -/
def scoringMomentumPct (f : TokenFeatures) : ℚ :=
  momentumPeakPct f.initialMcapSol (max f.peakMcapSol f.currentMcapSol)

structure ScoreBreakdown where
  total : ℤ
  items : ScoreItems
  tier : Tier
  recommendedSizeSol : ℚ
  freshBHotOverride : Bool
  aMomentumOverride : Bool
  aPlusMomentumOverride : Bool

namespace ScoreEngine

variable (cfg : ScoringConfig) (f : TokenFeatures)

/-- The developer's history and rank. -/
def devScores (t : FeatureThresholds) (s : Score) : Score :=
  let w := cfg.weights
  let strong := decide (t.devStrongMinCoins ≤ f.devTotalCoins) &&
    decide (t.devStrongMinPnlPct ≤ f.devPnlAvg)
  let s := s.addIf f.isSpamDev "spam_dev_penalty" cfg.spamDevPenalty
  let s :=
    if f.devHasHistory then
      if strong then s.add "dev_history_strong" w.devHistoryStrong
      else s.add "dev_history_weak" w.devHistoryWeak
    else s
  match f.devCategory with
  | .aPlus => s.add "dev_ranker_a_plus" w.devRankerAPlus
  | .a => s.add "dev_ranker_a" w.devRankerA
  | .bad => s.add "dev_ranker_bad" w.devRankerBad
  | .neutral | .stale | .fresh => s

/-- Smart wallets, buyers and the buy-to-sell ratio. -/
def demandScores (t : FeatureThresholds) (s : Score) : Score :=
  let w := cfg.weights
  let s :=
    if t.smartWallet3plusMin ≤ f.smartWalletCount then
      s.add "smart_wallets_3plus" w.smartWallets3plus
    else if t.smartWallet1plusMin ≤ f.smartWalletCount then
      s.add "smart_wallets_1plus" w.smartWallets1plus
    else s
  let s :=
    if t.buyersHigh ≤ f.buyerCount then s.add "buyers_10plus" w.buyers10plus
    else if t.buyersMid ≤ f.buyerCount then s.add "buyers_6plus" w.buyers6plus
    else if f.buyerCount < t.buyersLow then s.add "buyers_below_3" w.buyersBelow3
    else s
  s.addIf (rewardsBuyToSellRatio f cfg.antiRug t.buyToSellHigh) "buy_to_sell_ratio_high"
    w.buyToSellRatioHigh

def inGoodBand (t : FeatureThresholds) (momentumPct : ℚ) : Bool :=
  decide (t.momentumGoodLowPct ≤ momentumPct) && decide (momentumPct ≤ t.momentumGoodHighPct)

/-- Overheated goes before good. -/
def momentumScoresLegacy (t : FeatureThresholds) (s : Score) : Score :=
  let momentumPct := scoringMomentumPct f
  if t.momentumOverheatedPct ≤ momentumPct then
    s.add "momentum_overheated" cfg.weights.momentumOverheated
  else s.addIf (inGoodBand t momentumPct) "momentum_good" cfg.weights.momentumGood

/-- The band goes first, and everything above it is overheated. -/
def momentumScoresV2 (t : FeatureThresholds) (s : Score) : Score :=
  let momentumPct := scoringMomentumPct f
  if inGoodBand t momentumPct then s.add "momentum_good" cfg.weights.momentumGood
  else
    s.addIf (decide (t.momentumGoodHighPct < momentumPct) ||
        (decide (t.momentumGoodHighPct < t.momentumOverheatedPct) &&
          decide (t.momentumOverheatedPct ≤ momentumPct)))
      "momentum_overheated" cfg.weights.momentumOverheated

def volumeScores (t : FeatureThresholds) (s : Score) : Score :=
  s.addIf (decide (t.volumeOkSol ≤ f.buyVolumeSol)) "volume_ok" cfg.weights.volumeOk

def bundleScoresLegacy (t : FeatureThresholds) (s : Score) : Score :=
  if t.bundleIdenticalRatio ≤ f.bundle.identicalSizeRatio then
    s.add "bundle_identical" cfg.weights.bundleIdentical
  else
    s.addIf (decide (t.bundleSimilarRatio ≤ f.bundle.similarSizeRatio)) "bundle_similar"
      cfg.weights.bundleSimilar

def bundleScoresV2 (t : FeatureThresholds) (s : Score) : Score :=
  s.addIf (decide (t.bundleSimilarRatio ≤ f.bundle.similarSizeRatio)) "bundle_similar"
    cfg.weights.bundleSimilar

/-- Buyer cadence and the sell tape. -/
def applyEarlyTapeScores (s : Score) : Score :=
  let w := cfg.weights
  let ar := cfg.antiRug
  let slices := f.buyerVelocityNewPerSlice.length
  let minSlices := if ar.enabled then max ar.buyerVelocityMinSlices 2 else 1
  let s :=
    if 31 / 50 ≤ f.buyerVelocityPersistence ∧ minSlices ≤ slices then
      s.add "buyer_velocity_persistent" w.buyerVelocityPersistent
    else if f.buyerVelocityPersistence ≤ 7 / 25 ∧ 2 ≤ slices then
      s.add "buyer_velocity_fading" w.buyerVelocityFading
    else s
  let s := s.addIf (decide (29 / 50 ≤ f.sellPressureScore)) "sell_pressure_high" w.sellPressureHigh
  let absorbMinSell := if ar.enabled then ar.absorbStrongMinSellVolSol else 1 / 20
  let s := s.addIf
    (decide (29 / 50 ≤ f.absorbQualityScore) && decide (absorbMinSell ≤ f.sellVolumeWindowSol))
    "absorb_strong" w.absorbStrong
  let s :=
    if 2 ≤ f.smartWalletEarlyExits then s.add "smart_early_exit_dump" w.smartEarlyExitDump
    else if f.smartWalletEarlyExits = 1 then
      s.add "smart_early_exit_dump" (max (w.smartEarlyExitDump.tdiv 2) (-2))
    else s
  if 2 ≤ f.repeatDumpSlices then
    s.add "repeat_dump_cluster" (saturatingMul w.repeatDumpPenalty 3)
  else if 1 ≤ f.repeatDumpSlices then
    s.add "repeat_dump_cluster" (saturatingMul w.repeatDumpPenalty 2)
  else s

def finishBreakdown (s : Score) : ScoreBreakdown :=
  let scoreTier := capTierForLowMcap f cfg.antiRug
    (if cfg.aPlusThreshold ≤ s.total then .aPlus
    else if cfg.aThreshold ≤ s.total then .a
    else .skip)
  let tierBOk := tierBEntryOk cfg.tierB f s.items
  let hotOverride := !tierBOk && freshBHotOverrideOk cfg.tierB f s.items
  let tier : Tier :=
    if tierBDevEligible f cfg.tierB then (if tierBOk || hotOverride then .b else .skip)
    else scoreTier
  { total := s.total
    items := s.items
    tier := tier
    recommendedSizeSol := cfg.size.recommendedSizeSol tier
    freshBHotOverride := hotOverride
    aMomentumOverride :=
      tier == .a && aaMomentumOverrideForTier cfg.aaMomentumOverride tier s.items
    aPlusMomentumOverride :=
      tier == .aPlus && aaMomentumOverrideForTier cfg.aaMomentumOverride tier s.items }

/-- Before the V2 filter: the configured thresholds only. -/
def scoreLegacy : ScoreBreakdown :=
  let t := cfg.thresholds
  let s := devScores cfg f t {}
  let s := demandScores cfg f t s
  let s := momentumScoresLegacy cfg f t s
  let s := volumeScores cfg f t s
  let s := bundleScoresLegacy cfg f t s
  finishBreakdown cfg f (applyEarlyTapeScores cfg f s)

/-- The V2 filter, with merged thresholds. -/
def scoreV2 (t : FeatureThresholds) : ScoreBreakdown :=
  let s := devScores cfg f t {}
  let s := demandScores cfg f t s
  let s := momentumScoresV2 cfg f t s
  let s := volumeScores cfg f t s
  let s := bundleScoresV2 cfg f t s
  finishBreakdown cfg f (applyEarlyTapeScores cfg f s)

def score (thresholds : FeatureThresholds) : ScoreBreakdown :=
  if cfg.legacyScoring then scoreLegacy cfg f else scoreV2 cfg f thresholds

/-- Both paths end in `finishBreakdown`. -/
theorem score_eq (thresholds : FeatureThresholds) :
    ∃ s, score cfg f thresholds = finishBreakdown cfg f s := by
  unfold score
  split_ifs
  · exact ⟨_, rfl⟩
  · exact ⟨_, rfl⟩

end ScoreEngine

end Loggaper
