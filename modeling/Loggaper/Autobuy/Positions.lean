import Loggaper.Autobuy.Broker
import Loggaper.Autobuy.ExitEngine

/-!
# Positions

One row of the manager's table, its constructor, its profit and its market-cap samples, and the
parts of the exit engine that read a row. The row keeps every field that some exit rule reads;
its dashboard-only `open_reason` is left out.
-/

namespace Loggaper

/-- The same mint may have one row for each wallet. -/
structure PositionKey where
  mint : Address
  walletId : String
  deriving DecidableEq, Repr

structure Position where
  walletId : String
  pool : Pool
  initialHoldings : Amount
  holdings : Amount
  enterMcap : Amount
  highestMcap : ℚ
  /-- Exit when the profit falls to this value. -/
  exitProfitFloor : ℚ
  tp1Triggered : Bool
  tp2Triggered : Bool
  tp3Triggered : Bool
  tp4Triggered : Bool
  tp5Triggered : Bool
  mcapCeilingTriggered : Bool
  trailingActive : Bool
  /-- Blocks duplicate full-close signals while the sell is in flight. -/
  isClosing : Bool
  /-- Blocks a second partial sell before the first one executes. -/
  pendingPartialSell : Bool
  entryTime : ℕ
  /-- SOL returned over all partial and final sells. -/
  totalReturned : ℚ
  spentSol : ℚ
  devAddress : Option Address
  earlyBuyers : List Address
  learningSnapshot : Option LearningTradeSnapshot
  tkEntryBuyers : ℕ
  tkEntrySmart : ℕ
  tkEntryB2s : ℚ
  tkLastSecs : ℕ
  tkLastMcap : ℚ
  tkPrevSecs : ℕ
  tkPrevMcap : ℚ
  lastTimeKillTier : String
  lastTimeKillAfterSecs : ℕ
  exitProfile : ExitProfile
  holdMode : Bool
  exitPhase : PositionPhase
  liveScore : ℤ
  livePrevVelocity : ℚ
  liveBuyersPerSec : ℚ
  livePrevBuyersPerSec : ℚ
  lastLiveScoreAt : ℕ
  liveScoreEntryFloor : ℤ
  peakProfitPct : ℚ
  liveTapePrev : Option EarlyTapePoint
  liveTapeCurr : Option EarlyTapePoint
  exitMcapTicks : List ℚ
  slBelowFloorStreak : ℕ
  decayStreak : ℕ
  flushActive : Bool
  flushLowMcap : ℚ
  recoveryScore : ℤ
  slPrevRawMcap : Option ℚ
  useJupiterExitMcap : Bool
  exitMcapJupiter : Option ℚ
  lastExitMcapPollAt : ℕ
  deriving DecidableEq, Repr

namespace Position

/-- A fresh row. The fill's market cap, when there is one, wins over the pool's. -/
def new (walletId : String) (pool : Pool) (buyAmount : Amount) (currentTime : ℕ)
    (entryMcapFillSol : Option ℚ) : Position :=
  let enterMcap := match entryMcapFillSol.filter (0 < ·) with
    | some m => Amount.fromFloatNative m
    | none => pool.marketCap
  { walletId := walletId
    pool := pool
    initialHoldings := buyAmount
    holdings := buyAmount
    enterMcap := enterMcap
    highestMcap := enterMcap.toFloat
    exitProfitFloor := -16
    tp1Triggered := false
    tp2Triggered := false
    tp3Triggered := false
    tp4Triggered := false
    tp5Triggered := false
    mcapCeilingTriggered := false
    trailingActive := false
    isClosing := false
    pendingPartialSell := false
    entryTime := currentTime
    totalReturned := 0
    spentSol := 0
    devAddress := none
    earlyBuyers := []
    learningSnapshot := none
    tkEntryBuyers := 0
    tkEntrySmart := 0
    tkEntryB2s := 0
    tkLastSecs := 0
    tkLastMcap := 0
    tkPrevSecs := 0
    tkPrevMcap := 0
    lastTimeKillTier := ""
    lastTimeKillAfterSecs := 0
    exitProfile := .neutral
    holdMode := false
    exitPhase := .exploration
    liveScore := 0
    livePrevVelocity := 0
    liveBuyersPerSec := 0
    livePrevBuyersPerSec := 0
    lastLiveScoreAt := 0
    liveScoreEntryFloor := 1
    peakProfitPct := 0
    liveTapePrev := none
    liveTapeCurr := none
    exitMcapTicks := []
    slBelowFloorStreak := 0
    decayStreak := 0
    flushActive := false
    flushLowMcap := 0
    recoveryScore := 0
    slPrevRawMcap := none
    useJupiterExitMcap := false
    exitMcapJupiter := none
    lastExitMcapPollAt := 0 }

variable (pos : Position)

/-- Raw mcap for the exits: Jupiter's when graduated, else the pool's. -/
def exitRawMcap : ℚ :=
  let poolMcap := pos.pool.marketCap.toFloat
  if pos.useJupiterExitMcap then (pos.exitMcapJupiter.filter (0 < ·)).getD poolMcap else poolMcap

/-- Keep the last `maxTicks` valid samples. -/
def pushExitMcapTick (rawMcap : ℚ) (maxTicks : ℕ) : Position :=
  if exitMcapValid rawMcap then
    let ticks := pos.exitMcapTicks ++ [rawMcap]
    { pos with exitMcapTicks := ticks.drop (ticks.length - maxTicks) }
  else
    pos

def pnlAtMcap (mcap : ℚ) : ℚ :=
  let enterMcap := pos.enterMcap.toFloat
  if enterMcap = 0 then 0 else (mcap / enterMcap - 1) * 100

def pnl : ℚ := pos.pnlAtMcap pos.exitRawMcap

def filteredMarketCap (bandLow bandHigh : ℚ) : ℚ :=
  filteredExitMcap pos.exitMcapTicks pos.enterMcap.toFloat bandLow bandHigh

/-- Profit on the median-filtered tape. -/
def pnlFiltered (bandLow bandHigh : ℚ) : ℚ := pos.pnlAtMcap (pos.filteredMarketCap bandLow bandHigh)

/-- Advance the second-resolution samples behind the time-kill velocity. -/
def timeKillNoteMcapSample (wallSecs : ℕ) (mcap : ℚ) : Position :=
  if pos.tkLastSecs = 0 then
    { pos with
      tkLastSecs := wallSecs, tkLastMcap := mcap, tkPrevSecs := wallSecs, tkPrevMcap := mcap }
  else if wallSecs = pos.tkLastSecs then
    { pos with tkLastMcap := mcap }
  else
    { pos with
      tkPrevSecs := pos.tkLastSecs, tkPrevMcap := pos.tkLastMcap
      tkLastSecs := wallSecs, tkLastMcap := mcap }

/-- Market-cap move per second, in percent of the entry mcap. -/
def timeKillMcapVelocityPctPerSec (enterMcap : ℚ) : ℚ :=
  if enterMcap ≤ 0 then
    0
  else
    let dt : ℚ := (max (pos.tkLastSecs - pos.tkPrevSecs) 1 : ℕ)
    let dm := pos.tkLastMcap - pos.tkPrevMcap
    dm / enterMcap * 100 / dt

end Position

/-! ## Exit-engine rules on a row -/

/-- Metrics from mcap velocity and the entry snapshot, while no live tape is at hand. -/
def liveMetricsLite (pos : Position) (velPctPerSec profitPct : ℚ)
    (snap : Option LearningTradeSnapshot) (cfg : ExitEngineV4Config) : LiveMetrics :=
  let sellPressure : ℚ := (snap.map (·.sellPressureScore)).getD 0
  let entryVel : ℚ := (snap.map (·.velocityPct)).getD 0
  let bundleSimilar : ℚ := (snap.map (·.bundleSimilar)).getD 0
  let bundleIdentical : ℚ := (snap.map (·.bundleIdentical)).getD 0
  let smartExits := (snap.map (·.smartWalletEarlyExits)).getD 0
  let b2s := if pos.tkEntryB2s > 0 then pos.tkEntryB2s else (snap.map (·.buyToSellRatio)).getD 1
  { buyersPerSec := max (velPctPerSec * 12) 0 + if pos.tkEntryBuyers ≥ 35 then 5 / 2 else 0
    smartWalletCount := pos.tkEntrySmart
    buySellRatio := b2s
    holderGrowthRate := max velPctPerSec 0 * 20
    volumeDelta := velPctPerSec
    liquidityDelta := velPctPerSec
    sellPressureScore := sellPressure
    smartWalletExits := smartExits
    momentumDecay :=
      momentumDecayDetected velPctPerSec pos.livePrevVelocity sellPressure velPctPerSec
    volumeDecay := velPctPerSec < 0
    bundleDetected := bundleSimilar > cfg.holdMaxBundleSimilar || bundleIdentical > 1 / 4
    momentumOverheated := entryVel ≥ cfg.holdMomentumOverheatedPct || profitPct ≥ 120 }

/-- Entry-time profile from the entry snapshot, with the optional upgrade to hold mode. -/
def resolveEntryProfile (tk : TkEntryThresholds) (v4 : ExitEngineV4Config) (pos : Position)
    (snap : Option LearningTradeSnapshot) : ExitProfile × Bool :=
  let entryScore := (snap.map (·.scoreTotal)).getD 0
  let b2s := max pos.tkEntryB2s ((snap.map (·.buyToSellRatio)).getD 0)
  let smart := max pos.tkEntrySmart ((snap.map (·.smartWalletCount)).getD 0)
  let strong : ℕ :=
    (if smart ≥ 1 then 1 else 0) + (if pos.tkEntryBuyers ≥ tk.strongMinBuyers then 1 else 0)
      + (if b2s ≥ tk.strongMinB2s then 1 else 0)
  let weak : ℕ :=
    (if pos.tkEntrySmart = 0 then 1 else 0)
      + (if pos.tkEntryBuyers > 0 ∧ pos.tkEntryBuyers < tk.weakMaxBuyers then 1 else 0)
      + (if b2s > 0 ∧ b2s < tk.weakMaxB2s then 1 else 0)
  let base : ExitProfile :=
    if strong ≥ 2 ∧ weak ≤ 1 then .strong else if weak ≥ 2 ∧ strong ≤ 1 then .weak else .neutral
  let metrics := liveMetricsLite pos 0 0 snap v4
  let liveScore := max (calculateLiveScore metrics) (entryScore.tdiv 2)
  let hold := shouldEnableHoldMode v4 metrics liveScore
  let tier := (snap.map (·.tier)).getD ""
  let biased := mlProfileBias tier base
  (if hold ∧ (biased = .strong ∨ biased = .neutral) then .runner else biased, hold)

end Loggaper
