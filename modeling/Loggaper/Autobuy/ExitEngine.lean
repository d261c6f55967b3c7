import Loggaper.Helper
import Mathlib.Data.List.Sort

/-!
# Exit engine V4: configuration and pure rules

Profiles, phases and live score, stop-loss and market-cap filters. Floats are exact rationals,
`u8` counters are naturals with the saturation written out.
-/

namespace Loggaper

/-- Entry snapshot thresholds. -/
structure TkEntryThresholds where
  strongMinBuyers : ℕ
  strongMinB2s : ℚ
  weakMaxBuyers : ℕ
  weakMaxB2s : ℚ

inductive ExitProfile
  | weak | neutral | strong | runner
  deriving DecidableEq, Repr

inductive PositionPhase
  | exploration | momentum | expansion | distribution
  deriving DecidableEq, Repr

/-- Scoring-time features that the exits read. -/
structure LearningTradeSnapshot where
  entryMcapSol : ℚ
  smartWalletCount : ℕ
  velocityPct : ℚ
  bundleSimilar : ℚ
  bundleIdentical : ℚ
  buyerCount : ℕ
  buyToSellRatio : ℚ
  scoreTotal : ℤ
  tier : String
  sellPressureScore : ℚ
  smartWalletEarlyExits : ℕ
  hasMomentumGood : Bool
  deriving DecidableEq, Repr

structure EarlyTapePoint where
  buyerCount : ℕ
  stillLong : ℕ
  alreadySold : ℕ
  buyVolumeSol : ℚ
  cumSellRaw : ℕ
  cumSellEvents : ℕ
  mcapSol : ℚ
  deriving DecidableEq, Repr

structure LivePositionSnapshot where
  tape : EarlyTapePoint
  buyersPerSec : ℚ
  holderGrowthRate : ℚ
  volumeDelta : ℚ
  liquidityDelta : ℚ
  smartWalletCount : ℕ
  smartWalletExits : ℕ
  buySellRatio : ℚ
  sellPressureScore : ℚ
  bundleSimilar : ℚ
  bundleIdentical : ℚ
  mcapSol : ℚ
  deriving DecidableEq, Repr

/-! ## Configuration -/

/-- Per-profile take-profit and trailing parameters. -/
structure ExitTpProfile where
  tp1Pct : ℚ := 30
  tp1SellPct : ℚ := 40
  tp2Pct : ℚ := 50
  tp2SellPct : ℚ := 40
  tp3Pct : ℚ := 100
  tp3SellPct : ℚ := 15
  tp4Pct : ℚ := 150
  tp4SellPct : ℚ := 10
  tp5Pct : ℚ := 200
  tp5SellPct : ℚ := 10
  trailingStopDrawdownPct : ℚ := 14
  trailingActivateProfitPct : ℚ := 50
  trailingFloorProfitPct : ℚ := 15
  smartStopActivateProfitPct : ℚ := 50
  smartStopFloorProfitPct : ℚ := 5
  deriving DecidableEq, Repr

def defaultProfileWeak : ExitTpProfile := {}

def defaultProfileNeutral : ExitTpProfile where
  tp1Pct := 30
  tp1SellPct := 35
  tp2Pct := 50
  tp2SellPct := 25
  tp3Pct := 100
  tp3SellPct := 12
  tp4Pct := 150
  tp4SellPct := 10
  tp5Pct := 200
  tp5SellPct := 10
  trailingStopDrawdownPct := 20
  trailingActivateProfitPct := 60
  trailingFloorProfitPct := 25
  smartStopActivateProfitPct := 50
  smartStopFloorProfitPct := 5

def defaultProfileStrong : ExitTpProfile where
  tp1Pct := 30
  tp1SellPct := 30
  tp2Pct := 50
  tp2SellPct := 15
  tp3Pct := 100
  tp3SellPct := 10
  tp4Pct := 150
  tp4SellPct := 10
  tp5Pct := 200
  tp5SellPct := 10
  trailingStopDrawdownPct := 26
  trailingActivateProfitPct := 60
  trailingFloorProfitPct := 35
  smartStopActivateProfitPct := 50
  smartStopFloorProfitPct := 5

def defaultProfileRunner : ExitTpProfile where
  tp1Pct := 50
  tp1SellPct := 10
  tp2Pct := 80
  tp2SellPct := 10
  tp3Pct := 150
  tp3SellPct := 15
  tp4Pct := 250
  tp4SellPct := 12
  tp5Pct := 350
  tp5SellPct := 10
  trailingStopDrawdownPct := 32
  trailingActivateProfitPct := 55
  trailingFloorProfitPct := 30
  smartStopActivateProfitPct := 45
  smartStopFloorProfitPct := 8

structure ExitEngineV4Config where
  enabled : Bool := true
  liveScoreRefreshSecs : ℕ := 4
  exitGraceSecs : ℕ := 8
  exitGraceSecsTierA : ℕ := 14
  exitGraceSecsTierAPlus : ℕ := 19
  decayEarlyHoldSecs : ℕ := 25
  decayEarlyMcapProfitMinPct : ℚ := 9
  decayEarlyExtraConfirmTicks : ℕ := 1
  aPlusTimeKillMinSecs : ℕ := 50
  aPlusTimeKillMcapProfitMinPct : ℚ := 5
  tierATimeKillDeferMinSecs : ℕ := 50
  tierATimeKillDeferMcapMinPct : ℚ := 0
  weak : ExitTpProfile := defaultProfileWeak
  neutral : ExitTpProfile := defaultProfileNeutral
  strong : ExitTpProfile := defaultProfileStrong
  runner : ExitTpProfile := defaultProfileRunner
  holdMinLiveScore : ℤ := 13
  holdMinB2s : ℚ := 11 / 5
  holdMinSmart : ℕ := 5
  holdMaxBundleSimilar : ℚ := 7 / 20
  holdMomentumOverheatedPct : ℚ := 55
  phaseMomentumMinScore : ℤ := 5
  phaseExpansionMinScore : ℤ := 10
  phaseDistributionMaxScore : ℤ := 3
  strongTimeKillMinProfitAfterTp : ℚ := 8
  momentumDecayExitEnabled : Bool := true
  profitStaircaseEnabled : Bool := true
  runtimeRunnerUpgradeEnabled : Bool := true
  runnerUpgradeMinLiveScore : ℤ := 11
  reExpansionEnabled : Bool := true
  reExpansionMinScore : ℤ := 8
  reExpansionMinProfitPct : ℚ := 20
  adaptiveMoonbagEnabled : Bool := true
  decayConfirmTicks : ℕ := 3
  flushDropPct : ℚ := 18
  recoveryMinScore : ℤ := 8

def ExitEngineV4Config.profileParams (cfg : ExitEngineV4Config) : ExitProfile → ExitTpProfile
  | .weak => cfg.weak
  | .neutral => cfg.neutral
  | .strong => cfg.strong
  | .runner => cfg.runner

/-! ## Entry tiers and grace periods -/

/-- Floor for the live score of an open position. -/
def entryLiveScoreFloor (snap : Option LearningTradeSnapshot) : ℤ :=
  (snap.map fun s => max (s.scoreTotal.tdiv 2) 1).getD 1

def entryTierIsAPlus (tier : String) : Bool :=
  let t := tier.toLower
  textContains t "aplus" || textContains t "a+"

def entryTierIsA (tier : String) : Bool :=
  if entryTierIsAPlus tier then
    false
  else
    let t := tier.toLower
    t == "a" || "a ".toList.isPrefixOf t.toList || "::a".toList.isSuffixOf t.toList

/-- Tier-A defer: a longer time-kill window when entry had `momentum_good` and mcap is green. -/
def tierATimeKillDeferFloorSecs (cfg : ExitEngineV4Config) (entryTier : String)
    (snap : Option LearningTradeSnapshot) (mcapPnlPct : ℚ) : Option ℕ :=
  let minSecs := cfg.tierATimeKillDeferMinSecs
  if minSecs = 0 ∨ entryTierIsAPlus entryTier ∨ ¬ entryTierIsA entryTier then
    none
  else
    match snap with
    | none => none
    | some s =>
      if ¬ s.hasMomentumGood then none
      else if mcapPnlPct ≤ cfg.tierATimeKillDeferMcapMinPct then none
      else some minSecs

def exitGraceSecsForTier (tier : String) (cfg : ExitEngineV4Config) : ℕ :=
  if entryTierIsAPlus tier then
    if cfg.exitGraceSecsTierAPlus > 0 then cfg.exitGraceSecsTierAPlus else cfg.exitGraceSecs
  else if entryTierIsA tier then
    if cfg.exitGraceSecsTierA > 0 then cfg.exitGraceSecsTierA else cfg.exitGraceSecs
  else
    cfg.exitGraceSecs

def inExitGracePeriodTier (heldSecs : ℕ) (tier : String) (cfg : ExitEngineV4Config) : Bool :=
  heldSecs < exitGraceSecsForTier tier cfg

def inSlGracePeriod (heldSecs slGraceSecs : ℕ) : Bool := heldSecs < slGraceSecs

/-! ## Market-cap filter and stop loss -/

def exitMcapAbsMax : ℚ := 200000

def exitMcapValid (mcap : ℚ) : Bool := 0 < mcap && mcap ≤ exitMcapAbsMax

/-- Upper median of the valid samples. -/
def exitMcapMedian (mcaps : List ℚ) : Option ℚ :=
  let v := (mcaps.filter exitMcapValid).insertionSort (· ≤ ·)
  v[v.length / 2]?

/-- Reject outliers against the tape median. -/
def exitMcapMatchesBand (mcap : ℚ) (median : Option ℚ) (bandLow bandHigh : ℚ) : Bool :=
  if ¬ exitMcapValid mcap then
    false
  else
    match median with
    | none => true
    | some med => med ≤ 0 || (med * bandLow ≤ mcap && mcap ≤ med * bandHigh)

/-- Median of the in-band ticks, then the plain median, the last valid tick, `enterMcap`. -/
def filteredExitMcap (samples : List ℚ) (enterMcap bandLow bandHigh : ℚ) : ℚ :=
  let median := exitMcapMedian samples
  let inBand := samples.filter fun m => exitMcapMatchesBand m median bandLow bandHigh
  match exitMcapMedian inBand, median, samples.reverse.find? exitMcapValid with
  | some m, _, _ => m
  | none, some m, _ => m
  | none, none, some last => last
  | none, none, none => max enterMcap 0

/-- The worse of the filtered and the raw profit. -/
def slTriggerPnlPct (filteredPnlPct rawPnlPct : ℚ) : ℚ := min filteredPnlPct rawPnlPct

def slRawTickDropPct (prevRawMcap rawMcap : ℚ) : Option ℚ :=
  if ¬ exitMcapValid prevRawMcap ∨ ¬ exitMcapValid rawMcap ∨ prevRawMcap ≤ 0 then none
  else some ((prevRawMcap - rawMcap) / prevRawMcap * 100)

/-- Instant emergency stop: a deep loss always, a tick drop only after grace and at a loss. -/
def slCrashTriggered (triggerPnlPct rawPnlPct : ℚ) (tickDropPct : Option ℚ)
    (crashPnlPct crashTickDropPct : ℚ) (inSlGrace : Bool) : Bool :=
  if triggerPnlPct ≤ crashPnlPct then
    true
  else if inSlGrace then
    false
  else
    (tickDropPct.any fun d => decide (crashTickDropPct ≤ d)) && rawPnlPct < 0

/-! ## Live score -/

structure LiveMetrics where
  buyersPerSec : ℚ
  smartWalletCount : ℕ
  buySellRatio : ℚ
  holderGrowthRate : ℚ
  volumeDelta : ℚ
  liquidityDelta : ℚ
  sellPressureScore : ℚ
  smartWalletExits : ℕ
  momentumDecay : Bool
  volumeDecay : Bool
  bundleDetected : Bool
  momentumOverheated : Bool

def calculateLiveScore (m : LiveMetrics) : ℤ :=
  (if m.buyersPerSec > 4 then 2 else 0)
    + (if m.smartWalletCount ≥ 5 then 3 else if m.smartWalletCount ≥ 3 then 2 else 0)
    + (if m.buySellRatio > 2 then 2 else if m.buySellRatio > 3 / 2 then 1 else 0)
    + (if m.holderGrowthRate > 3 / 2 then 2 else 0)
    + (if m.volumeDelta > 0 then 1 else 0)
    + (if m.liquidityDelta > 0 then 1 else 0)
    - (if m.sellPressureScore > 6 / 5 then 2 else 0)
    - (if m.smartWalletExits ≥ 2 then 3 else if m.smartWalletExits ≥ 1 then 1 else 0)
    - (if m.momentumDecay then 4 else 0)
    - (if m.volumeDecay then 2 else 0)
    - (if m.bundleDetected then 3 else 0)

def momentumDecayDetected (velNow velPrev sellPressure volumeDelta : ℚ) : Bool :=
  let velDrop := velPrev > 1 / 100 && velNow < velPrev * (7 / 10)
  velDrop && sellPressure > 6 / 5 && volumeDelta < 0

def liveMetricsFromSnapshot (snap : LivePositionSnapshot)
    (buyersPerSecPrev velNow velPrev entryVelocityPct profitPct : ℚ) (cfg : ExitEngineV4Config) :
    LiveMetrics where
  buyersPerSec := snap.buyersPerSec
  smartWalletCount := snap.smartWalletCount
  buySellRatio := snap.buySellRatio
  holderGrowthRate := snap.holderGrowthRate
  volumeDelta := snap.volumeDelta
  liquidityDelta := snap.liquidityDelta
  sellPressureScore := snap.sellPressureScore
  smartWalletExits := snap.smartWalletExits
  momentumDecay :=
    momentumDecayDetected snap.buyersPerSec buyersPerSecPrev snap.sellPressureScore
        snap.volumeDelta ||
      (velPrev > 1 / 100 && velNow < velPrev * (7 / 10) && snap.sellPressureScore > 6 / 5 &&
        snap.volumeDelta < 0)
  volumeDecay := snap.volumeDelta < 0 && velNow < velPrev * (17 / 20)
  bundleDetected := snap.bundleSimilar > cfg.holdMaxBundleSimilar || snap.bundleIdentical > 1 / 5
  momentumOverheated := entryVelocityPct ≥ cfg.holdMomentumOverheatedPct || profitPct ≥ 120

/-- Recovery score after a flush. -/
def recoveryScore (m : LiveMetrics) (currentMcap flushLowMcap localHighMcap : ℚ) : ℤ :=
  (if m.buyersPerSec > 2 then 2 else if m.buyersPerSec ≤ 1 / 2 then -2 else 0)
    + (if m.volumeDelta > 0 then 2 else -1)
    + (if m.buySellRatio > 3 / 2 then 1 else 0)
    - (if m.sellPressureScore > 6 / 5 then 2 else 0)
    - (if m.smartWalletExits ≥ 1 then 1 else 0)
    + (if flushLowMcap > 0 then
        if currentMcap > flushLowMcap * (21 / 20) then 2
        else if currentMcap < flushLowMcap then -2
        else 0
      else 0)
    + (if localHighMcap > 0 ∧ currentMcap ≥ localHighMcap * (9 / 10) then 2 else 0)
    - (if m.momentumDecay then 2 else 0)

def shouldEnableHoldMode (cfg : ExitEngineV4Config) (m : LiveMetrics) (liveScore : ℤ) : Bool :=
  liveScore ≥ cfg.holdMinLiveScore && m.smartWalletCount ≥ cfg.holdMinSmart &&
    m.buySellRatio > cfg.holdMinB2s && !m.bundleDetected && !m.momentumOverheated

/-! ## Trailing, staircase, phases -/

def adaptiveTrailing (profile : ExitProfile) (liveScore : ℤ) (profitPct : ℚ) : ℚ :=
  let profileFloor : ℚ := match profile with
    | .weak => 14
    | .neutral => 18
    | .strong => 22
    | .runner => 38
  let doc : ℚ :=
    if liveScore ≥ 15 then 40
    else if liveScore ≥ 11 then 24
    else if profitPct > 50 then 18
    else 14
  min (max doc profileFloor) 45

/-- Minimum locked profit against the session's peak. -/
def profitLockStaircaseFloor (peakProfitPct : ℚ) : Option ℚ :=
  if peakProfitPct ≥ 400 then some 180
  else if peakProfitPct ≥ 200 then some 90
  else if peakProfitPct ≥ 100 then some 40
  else if peakProfitPct ≥ 50 then some 15
  else none

def transitionPositionPhase (current : PositionPhase) (liveScore : ℤ) (momentumDecay : Bool)
    (profitPct : ℚ) (cfg : ExitEngineV4Config) : PositionPhase :=
  if cfg.reExpansionEnabled ∧ current = .distribution ∧ liveScore ≥ cfg.reExpansionMinScore ∧
      profitPct ≥ cfg.reExpansionMinProfitPct then .expansion
  else if momentumDecay ∨ liveScore ≤ cfg.phaseDistributionMaxScore then .distribution
  else if liveScore ≥ cfg.phaseExpansionMinScore then .expansion
  else if liveScore ≥ cfg.phaseMomentumMinScore then .momentum
  else .exploration

/-- The phase adjusts take-profit and trailing on top of the profile. -/
def applyPhaseToTp (base : ExitTpProfile) : PositionPhase → ExitTpProfile
  | .exploration => base
  | .momentum =>
    { base with trailingActivateProfitPct := base.trailingActivateProfitPct * (21 / 20) }
  | .expansion =>
    { base with
      trailingStopDrawdownPct := min (base.trailingStopDrawdownPct * (28 / 25)) 45
      tp3SellPct := base.tp3SellPct * (17 / 20)
      tp4SellPct := base.tp4SellPct * (17 / 20)
      tp5SellPct := base.tp5SellPct * (17 / 20) }
  | .distribution =>
    { base with
      tp1SellPct := min (base.tp1SellPct * (6 / 5)) 55
      tp2SellPct := min (base.tp2SellPct * (23 / 20)) 50
      trailingActivateProfitPct := base.trailingActivateProfitPct * (17 / 20) }

/-- Smaller partial sells from TP3 on when the tape is strong. -/
def adaptiveMoonbagSellPct (baseSell : ℚ) (liveScore : ℤ) (phase : PositionPhase) : ℚ :=
  if phase ≠ .expansion ∧ phase ≠ .momentum then baseSell
  else if liveScore ≥ 12 then baseSell * (1 / 2)
  else if liveScore ≥ 9 then baseSell * (3 / 4)
  else baseSell

/-- Tier bias at entry. -/
def mlProfileBias (tier : String) (base : ExitProfile) : ExitProfile :=
  let t := tier.toLower
  if textContains t "aplus" || textContains t "a+" then
    if base = .weak then .strong else .runner
  else if t == "a" then
    if base = .weak ∨ base = .neutral then .strong else base
  else
    base

def maybeUpgradeRunner (cfg : ExitEngineV4Config) (current : ExitProfile) (m : LiveMetrics)
    (liveScore : ℤ) (holdAlready : Bool) : ExitProfile × Bool :=
  if ¬ cfg.runtimeRunnerUpgradeEnabled ∨ holdAlready then
    (current, holdAlready)
  else if liveScore ≥ cfg.runnerUpgradeMinLiveScore ∧ shouldEnableHoldMode cfg m liveScore ∧
      (current = .strong ∨ current = .neutral) then
    (.runner, true)
  else
    (current, holdAlready)

/-! ## Sell sizes stay partial -/

/-- A profile whose every level sells less than the whole position. -/
structure ExitTpProfile.Partial (p : ExitTpProfile) : Prop where
  tp1 : p.tp1SellPct < 100
  tp2 : p.tp2SellPct < 100
  tp3 : p.tp3SellPct < 100
  tp4 : p.tp4SellPct < 100
  tp5 : p.tp5SellPct < 100

theorem mul_lt_hundred {x c : ℚ} (hx : x < 100) (h₀ : 0 ≤ c) (h₁ : c ≤ 1) : x * c < 100 := by
  by_cases h : 0 ≤ x
  · calc x * c ≤ x * 1 := by gcongr
      _ < 100 := by linarith
  · have : x * c ≤ 0 := mul_nonpos_of_nonpos_of_nonneg (by linarith) h₀
    linarith

theorem ExitTpProfile.Partial.applyPhaseToTp {p : ExitTpProfile} (h : p.Partial)
    (phase : PositionPhase) : (applyPhaseToTp p phase).Partial := by
  cases phase with
  | exploration => exact h
  | momentum => exact ⟨h.tp1, h.tp2, h.tp3, h.tp4, h.tp5⟩
  | expansion =>
    exact ⟨h.tp1, h.tp2, mul_lt_hundred h.tp3 (by norm_num) (by norm_num),
      mul_lt_hundred h.tp4 (by norm_num) (by norm_num),
      mul_lt_hundred h.tp5 (by norm_num) (by norm_num)⟩
  | distribution =>
    refine ⟨?_, ?_, h.tp3, h.tp4, h.tp5⟩
    · exact (min_le_right _ _).trans_lt (by norm_num)
    · exact (min_le_right _ _).trans_lt (by norm_num)

theorem adaptiveMoonbagSellPct_lt {x : ℚ} (hx : x < 100) (liveScore : ℤ) (phase : PositionPhase) :
    adaptiveMoonbagSellPct x liveScore phase < 100 := by
  unfold adaptiveMoonbagSellPct
  split_ifs
  · exact hx
  · exact mul_lt_hundred hx (by norm_num) (by norm_num)
  · exact mul_lt_hundred hx (by norm_num) (by norm_num)
  · exact hx

end Loggaper
