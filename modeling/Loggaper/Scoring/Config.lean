import Loggaper.Autobuy.WalletRegistry

/-!
# Scoring configuration

Weights, thresholds and gates of the score engine, with the defaults of the source. Points are
`i32`.
-/

namespace Loggaper

structure ScoringWeights where
  devHistoryStrong : ℤ := 2
  devHistoryWeak : ℤ := 2
  devRankerAPlus : ℤ := 3
  devRankerA : ℤ := 1
  devRankerBad : ℤ := -3
  smartWallets3plus : ℤ := 4
  smartWallets1plus : ℤ := 1
  buyers10plus : ℤ := 2
  buyers6plus : ℤ := 1
  buyersBelow3 : ℤ := -2
  buyToSellRatioHigh : ℤ := 1
  momentumGood : ℤ := 2
  momentumOverheated : ℤ := -3
  volumeOk : ℤ := 1
  bundleSimilar : ℤ := -4
  bundleIdentical : ℤ := -5
  buyerVelocityPersistent : ℤ := 1
  buyerVelocityFading : ℤ := -2
  sellPressureHigh : ℤ := -2
  absorbStrong : ℤ := 2
  smartEarlyExitDump : ℤ := -2
  repeatDumpPenalty : ℤ := -1

structure FeatureThresholds where
  devStrongMinCoins : ℕ := 5
  devStrongMinPnlPct : ℚ := 20
  buyersHigh : ℕ := 10
  buyersMid : ℕ := 6
  buyersLow : ℕ := 4
  buyToSellHigh : ℚ := 17 / 10
  /-- Growth of the market cap over the scoring window, in percent, that counts as good. -/
  momentumGoodLowPct : ℚ := 12
  momentumGoodHighPct : ℚ := 30
  momentumOverheatedPct : ℚ := 55
  volumeOkSol : ℚ := 12
  bundleSimilarRatio : ℚ := 7 / 10
  bundleIdenticalRatio : ℚ := 1 / 2
  /-- As a fraction of the median. -/
  bundleSimilarTolerance : ℚ := 1 / 10
  smartWallet3plusMin : ℕ := 4
  smartWallet1plusMin : ℕ := 1
  deriving DecidableEq

/-- Buy sizes by tier, from the scoring configuration. -/
structure SizeConfig where
  aPlusSol : ℚ
  aSol : ℚ
  bSol : ℚ

/-- The size that the score engine recommends for its tier. -/
def SizeConfig.recommendedSizeSol (size : SizeConfig) : Tier → ℚ
  | .aPlus => size.aPlusSol
  | .a => size.aSol
  | .b => size.bSol
  | .skip => 0

/-- Against pumps with little or fake selling. -/
structure AntiRugConfig where
  enabled : Bool := true
  entryGateEnabled : Bool := true
  minSellVolumeWindowSol : ℚ := 2
  minFeeFlowRatio : ℚ := 2 / 25
  minSellPressureScore : ℚ := 1 / 20
  minBuyVolumeForGatesSol : ℚ := 8
  absorbStrongMinSellVolSol : ℚ := 3 / 2
  buyToSellMaxWithoutMinSellVol : ℚ := 12
  buyToSellMinSellVolSol : ℚ := 3
  buyerVelocityMinSlices : ℕ := 2
  lowMcapPeakSol : ℚ := 90
  lowMcapMinBuyVolumeSol : ℚ := 25

/-- Fresh runners that are too hot for the momentum band. -/
structure HotFreshOverrideConfig where
  enabled : Bool := false
  minBuyers : ℕ := 25
  minBuyVolumeSol : ℚ := 25
  minVelocityPct : ℚ := 100

/-- The lane of fresh developers. -/
structure TierBGateConfig where
  enabled : Bool := true
  minSmartWallets : ℕ := 0
  minBuyers : ℕ := 10
  minBuyVolumeSol : ℚ := 10
  minVelocityPct : ℚ := 5
  hotFreshOverride : HotFreshOverrideConfig := {}

structure AAMomentumOverrideConfig where
  enabled : Bool := true

structure ScoringConfig where
  aPlusThreshold : ℤ := 9
  aThreshold : ℤ := 7
  spamDevPenalty : ℤ := -3
  legacyScoring : Bool := false
  weights : ScoringWeights := {}
  thresholds : FeatureThresholds := {}
  size : SizeConfig := ⟨2 / 5, 3 / 10, 1 / 5⟩
  antiRug : AntiRugConfig := {}
  tierB : TierBGateConfig := {}
  aaMomentumOverride : AAMomentumOverrideConfig := {}

end Loggaper
