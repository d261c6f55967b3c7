import Loggaper.Autobuy.PostExitTracker
import Loggaper.Manager.Config

/-!
# One row in one tick

The body of the loop of `process_positions`, stage by stage in the order of the source. A stage
either goes on with the changed row or ends the row's turn (`continue`), possibly with a sell.

The stages that never stop a turn are total functions on rows. `prepareRow` strings them together,
`runExits` does the same for the exits, and `tickPosition` is the whole turn.
-/

namespace Loggaper

/-- A sell that a tick asks for. Urgent ones skip the delay. -/
structure SellAction where
  percent : ℚ
  reason : SellReason
  urgent : Bool

/-- How a stage of a row's turn ends. -/
inductive Flow
  | next (pos : Position)
  | stop (pos : Position) (action : Option SellAction)

namespace Flow

def bind : Flow → (Position → Flow) → Flow
  | next pos, f => f pos
  | stop pos action, _ => stop pos action

def pos : Flow → Position
  | next pos => pos
  | stop pos _ => pos

def action : Flow → Option SellAction
  | next _ => none
  | stop _ action => action

end Flow

/-! ## Levels and flags -/

namespace Position

def tpTriggered (pos : Position) : TpLevel → Bool
  | .tp1 => pos.tp1Triggered
  | .tp2 => pos.tp2Triggered
  | .tp3 => pos.tp3Triggered
  | .tp4 => pos.tp4Triggered
  | .tp5 => pos.tp5Triggered

def setTpTriggered (pos : Position) : TpLevel → Position
  | .tp1 => { pos with tp1Triggered := true }
  | .tp2 => { pos with tp2Triggered := true }
  | .tp3 => { pos with tp3Triggered := true }
  | .tp4 => { pos with tp4Triggered := true }
  | .tp5 => { pos with tp5Triggered := true }

def triggered (pos : Position) : SellLevel → Bool
  | .ceiling => pos.mcapCeilingTriggered
  | .tp n => pos.tpTriggered n

end Position

def ExitTpProfile.pct (p : ExitTpProfile) : TpLevel → ℚ
  | .tp1 => p.tp1Pct
  | .tp2 => p.tp2Pct
  | .tp3 => p.tp3Pct
  | .tp4 => p.tp4Pct
  | .tp5 => p.tp5Pct

def ExitTpProfile.sellPct (p : ExitTpProfile) : TpLevel → ℚ
  | .tp1 => p.tp1SellPct
  | .tp2 => p.tp2SellPct
  | .tp3 => p.tp3SellPct
  | .tp4 => p.tp4SellPct
  | .tp5 => p.tp5SellPct

/-! ## Observation -/

/-- What the tick has measured on a row before the exits run. -/
structure TickView where
  currentTime : ℕ
  rawMcap : ℚ
  currentMcap : ℚ
  profit : ℚ
  profitRaw : ℚ
  slProfit : ℚ
  tickDrop : Option ℚ
  vel : ℚ
  heldSecs : ℕ
  entryTier : String
  mcapPnlPct : ℚ
  isAPlus : Bool
  inGrace : Bool

/-- A background poll of the market cap of one row. -/
structure ExitMcapPoll where
  mint : Address
  poolRawMcap : ℚ
  forceJupiter : Bool
  deriving DecidableEq, Repr

section
variable (cfg : SmartBuyConfig)

/-- Start a poll for a graduated or high row when the last one is old enough. -/
def pollExitMcap (mint : Address) (hasRpc : Bool) (currentTime : ℕ) (pos : Position) :
    Position × Option ExitMcapPoll :=
  let poolRaw := pos.pool.marketCap.toFloat
  let shouldPoll := pos.useJupiterExitMcap || pos.mcapCeilingTriggered || 150 ≤ poolRaw
  if shouldPoll ∧ currentTime - pos.lastExitMcapPollAt ≥ openExitMcapPollSecs ∧ hasRpc then
    ({ pos with lastExitMcapPollAt := currentTime },
      some ⟨mint, poolRaw, pos.useJupiterExitMcap || pos.mcapCeilingTriggered⟩)
  else
    (pos, none)

def noteHighestMcap (mcap : ℚ) (pos : Position) : Position :=
  if mcap > pos.highestMcap then { pos with highestMcap := mcap } else pos

def notePeakProfit (profit : ℚ) (pos : Position) : Position :=
  if profit > pos.peakProfitPct then { pos with peakProfitPct := profit } else pos

/-- Take the raw market cap into the tape, the session high and the velocity samples. -/
def sampleMcap (currentTime : ℕ) (pos : Position) : Position :=
  let pos := pos.pushExitMcapTick pos.exitRawMcap cfg.exitMcapMedianTicks
  let currentMcap := pos.filteredMarketCap cfg.exitMcapBandLowRatio cfg.exitMcapBandHighRatio
  (noteHighestMcap currentMcap pos).timeKillNoteMcapSample currentTime currentMcap

/-- Sample the market cap and measure profit, velocity and holding time. -/
def observe (currentTime : ℕ) (pos : Position) : Position × TickView :=
  let rawMcap := pos.exitRawMcap
  let sampled := sampleMcap cfg currentTime pos
  let currentMcap := sampled.filteredMarketCap cfg.exitMcapBandLowRatio cfg.exitMcapBandHighRatio
  let profit := sampled.pnlFiltered cfg.exitMcapBandLowRatio cfg.exitMcapBandHighRatio
  let profitRaw := sampled.pnlAtMcap rawMcap
  let tickDrop := sampled.slPrevRawMcap.bind fun prev => slRawTickDropPct prev rawMcap
  let pos := notePeakProfit profit { sampled with slPrevRawMcap := some rawMcap }
  let entryTier := (pos.learningSnapshot.map (·.tier)).getD ""
  let heldSecs := currentTime - pos.entryTime
  (pos,
    { currentTime := currentTime
      rawMcap := rawMcap
      currentMcap := currentMcap
      profit := profit
      profitRaw := profitRaw
      slProfit := slTriggerPnlPct profit profitRaw
      tickDrop := tickDrop
      vel := pos.timeKillMcapVelocityPctPerSec pos.enterMcap.toFloat
      heldSecs := heldSecs
      entryTier := entryTier
      mcapPnlPct := pos.pnl
      isAPlus := entryTierIsAPlus entryTier
      inGrace := cfg.exitV4.enabled && inExitGracePeriodTier heldSecs entryTier cfg.exitV4 })

/-- Live score, phase and profile without a live tape. -/
def refreshLiveLite (v : TickView) (pos : Position) : Position :=
  if cfg.exitV4.enabled ∧ ¬ v.inGrace ∧
      v.currentTime - pos.lastLiveScoreAt ≥ cfg.exitV4.liveScoreRefreshSecs ∧
      pos.liveTapeCurr.isNone then
    let metrics := liveMetricsLite pos v.vel v.profit pos.learningSnapshot cfg.exitV4
    let liveScore := max (calculateLiveScore metrics) pos.liveScoreEntryFloor
    let upgrade := maybeUpgradeRunner cfg.exitV4 pos.exitProfile metrics liveScore pos.holdMode
    { pos with
      liveScore := liveScore
      livePrevVelocity := v.vel
      lastLiveScoreAt := v.currentTime
      exitPhase :=
        transitionPositionPhase pos.exitPhase liveScore metrics.momentumDecay v.profit cfg.exitV4
      exitProfile := upgrade.1
      holdMode := upgrade.2 }
  else
    pos

/-- Lock in a minimum profit against the session's peak. -/
def lockStaircase (pos : Position) : Position :=
  if cfg.exitV4.enabled ∧ cfg.exitV4.profitStaircaseEnabled then
    match profitLockStaircaseFloor pos.peakProfitPct with
    | some floor =>
      if pos.exitProfitFloor < floor then { pos with exitProfitFloor := floor } else pos
    | none => pos
  else
    pos

/-- The adaptive time-kill window and its tier. -/
def timeKillWindowProfile (pos : Position) (profit currentMcap : ℚ) (heldSecs : ℕ) : ℕ × String :=
  if ¬ cfg.timeKillAdaptive then
    (cfg.timeKillSecs, "fixed")
  else
    let vel := pos.timeKillMcapVelocityPctPerSec pos.enterMcap.toFloat
    let peakDd : ℚ :=
      if pos.highestMcap > 0 then (pos.highestMcap - currentMcap) / pos.highestMcap else 0
    let strong : ℕ :=
      (if pos.tkEntrySmart ≥ 1 then 1 else 0)
        + (if pos.tkEntryBuyers ≥ cfg.timeKillStrongMinBuyers then 1 else 0)
        + (if pos.tkEntryB2s ≥ cfg.timeKillStrongMinB2s then 1 else 0)
        + (if heldSecs ≥ 6 ∧ vel ≥ cfg.timeKillVelStrong then 1 else 0)
        + (if profit ≥ cfg.timeKillEarlyGreenPct then 1 else 0)
    let weak : ℕ :=
      (if pos.tkEntrySmart = 0 then 1 else 0)
        + (if pos.tkEntryBuyers > 0 ∧ pos.tkEntryBuyers < cfg.timeKillWeakMaxBuyers then 1 else 0)
        + (if pos.tkEntryB2s > 0 ∧ pos.tkEntryB2s < cfg.timeKillWeakMaxB2s then 1 else 0)
        + (if heldSecs ≥ 8 ∧ |vel| ≤ cfg.timeKillVelFlat then 1 else 0)
        + (if peakDd ≥ cfg.timeKillPeakDdForWeak ∧ profit < cfg.timeKillMinProfitPct then 1 else 0)
    if strong ≥ 4 ∧ weak ≤ 1 then
      (min (max cfg.timeKillStrongSecs 45) 80, "strong")
    else if weak ≥ 3 ∧ strong ≤ 1 then
      (min (max cfg.timeKillWeakSecs 18) 28, "weak")
    else
      (min (max cfg.timeKillNeutralSecs 20) 45, "neutral")

/-- The time-kill window with the tier rules on top. -/
def timeKillAfterSecs (v : TickView) (pos : Position) : ℕ :=
  let base := (timeKillWindowProfile cfg pos v.profit v.currentMcap v.heldSecs).1
  let base :=
    if cfg.exitV4.enabled ∧ v.isAPlus then max base cfg.exitV4.aPlusTimeKillMinSecs else base
  if cfg.exitV4.enabled then
    match tierATimeKillDeferFloorSecs cfg.exitV4 v.entryTier pos.learningSnapshot v.mcapPnlPct with
    | some floor => max base floor
    | none => base
  else
    base

def noteTimeKillWindow (v : TickView) (pos : Position) : Position :=
  { pos with
    lastTimeKillTier := (timeKillWindowProfile cfg pos v.profit v.currentMcap v.heldSecs).2
    lastTimeKillAfterSecs := timeKillAfterSecs cfg v pos }

/-- The take-profit parameters in force for the row. -/
def tpConfig (pos : Position) : ExitTpProfile :=
  if cfg.exitV4.enabled then
    applyPhaseToTp (cfg.exitV4.profileParams pos.exitProfile) pos.exitPhase
  else
    cfg.plainProfile

def trailingDrawdownPct (v : TickView) (pos : Position) : ℚ :=
  if cfg.exitV4.enabled then adaptiveTrailing pos.exitProfile pos.liveScore v.profit
  else (tpConfig cfg pos).trailingStopDrawdownPct

/-! ## Exits -/

/-- A drawdown from the session high opens a flush and records its bottom. -/
def trackFlush (v : TickView) (pos : Position) : Position :=
  let drawdownFromHigh : ℚ :=
    if pos.highestMcap > 0 then (pos.highestMcap - v.currentMcap) / pos.highestMcap * 100 else 0
  if drawdownFromHigh ≥ cfg.exitV4.flushDropPct then
    if ¬ pos.flushActive then { pos with flushActive := true, flushLowMcap := v.currentMcap }
    else if v.currentMcap < pos.flushLowMcap then { pos with flushLowMcap := v.currentMcap }
    else pos
  else if v.currentMcap ≥ pos.highestMcap * (99 / 100) then
    { pos with flushActive := false }
  else
    pos

/-- The tape deteriorates on this tick. -/
def decayNow (v : TickView) (pos : Position) : Bool :=
  let sellP : ℚ := (pos.learningSnapshot.map (·.sellPressureScore)).getD 0
  let velocityDecay :=
    momentumDecayDetected pos.liveBuyersPerSec pos.livePrevBuyersPerSec sellP v.vel
  let distributionDecay :=
    pos.exitPhase = .distribution && pos.liveScore ≤ cfg.exitV4.phaseDistributionMaxScore
  let earlyGreen :=
    v.heldSecs < cfg.exitV4.decayEarlyHoldSecs &&
      v.mcapPnlPct ≥ cfg.exitV4.decayEarlyMcapProfitMinPct
  if earlyGreen ∧ distributionDecay ∧ ¬ velocityDecay then false
  else velocityDecay || distributionDecay

/-- Ticks of deterioration before the decay exit: a `u8`, at least one. -/
def decayConfirmNeeded (v : TickView) : ℕ :=
  let earlyGreen :=
    v.heldSecs < cfg.exitV4.decayEarlyHoldSecs &&
      v.mcapPnlPct ≥ cfg.exitV4.decayEarlyMcapProfitMinPct
  let ticks :=
    if earlyGreen then
      min (cfg.exitV4.decayConfirmTicks + cfg.exitV4.decayEarlyExtraConfirmTicks) 255
    else
      cfg.exitV4.decayConfirmTicks
  max ticks 1

/-- Count the ticks of deterioration; a healthy recovery from a flush resets the count. -/
def trackDecay (v : TickView) (pos : Position) : Position :=
  let decay := decayNow cfg v pos
  let pos := trackFlush cfg v pos
  let metrics := liveMetricsLite pos v.vel v.profit pos.learningSnapshot cfg.exitV4
  let recovery := recoveryScore metrics v.currentMcap pos.flushLowMcap pos.highestMcap
  let healthyRecovery := pos.flushActive && recovery ≥ cfg.exitV4.recoveryMinScore
  { pos with
    recoveryScore := recovery
    decayStreak := if decay ∧ ¬ healthyRecovery then min (pos.decayStreak + 1) 255 else 0 }

/-- 0. Momentum decay. -/
def exitMomentumDecay (v : TickView) (pos : Position) : Flow :=
  if cfg.exitV4.enabled ∧ cfg.exitV4.momentumDecayExitEnabled ∧ ¬ v.inGrace ∧
      pos.liveTapeCurr.isSome then
    let pos := trackDecay cfg v pos
    if pos.decayStreak ≥ decayConfirmNeeded cfg v then
      let phase := if pos.exitPhase = .distribution then some pos.exitPhase else none
      .stop { pos with isClosing := true }
        (some ⟨100, .momentumDecay phase pos.decayStreak pos.recoveryScore, false⟩)
    else
      .next pos
  else
    .next pos

def skipTimeKill (v : TickView) (pos : Position) : Bool :=
  (cfg.exitV4.enabled && (pos.exitProfile = .strong || pos.exitProfile = .runner) &&
      (pos.tp1Triggered || pos.tp2Triggered) &&
      v.profit ≥ cfg.exitV4.strongTimeKillMinProfitAfterTp) ||
    (cfg.exitV4.enabled && v.isAPlus &&
      (v.heldSecs < cfg.exitV4.aPlusTimeKillMinSecs ||
        v.mcapPnlPct ≥ cfg.exitV4.aPlusTimeKillMcapProfitMinPct))

/-- 1. Time kill. -/
def exitTimeKill (v : TickView) (pos : Position) : Flow :=
  if ¬ skipTimeKill cfg v pos ∧
      v.currentTime ≥ wrapU64 (pos.entryTime + pos.lastTimeKillAfterSecs) ∧
      v.profit < cfg.timeKillMinProfitPct then
    .stop { pos with isClosing := true } (some ⟨100, .timeKill, false⟩)
  else
    .next pos

def slReason (v : TickView) (pos : Position) (crash : Bool) (confirmTicks : Option ℕ) :
    SellReason :=
  .stopLoss crash v.slProfit pos.exitProfitFloor v.profit v.profitRaw v.currentMcap v.rawMcap
    confirmTicks v.tickDrop

/-- Consecutive ticks at or below the floor past the grace period, a saturating `u8`. -/
def slStreak (v : TickView) (pos : Position) : ℕ :=
  if inSlGracePeriod v.heldSecs cfg.slGraceSecs then 0
  else if v.slProfit ≤ pos.exitProfitFloor then min (pos.slBelowFloorStreak + 1) 255
  else 0

/-- 2. Stop loss: a crash at once, else a run of confirming ticks past the grace period. The
needed count is a `u32` cut down to a `u8`. -/
def exitStopLoss (v : TickView) (pos : Position) : Flow :=
  let inSlGrace := inSlGracePeriod v.heldSecs cfg.slGraceSecs
  let slConfirm := max cfg.slConfirmTicks 1
  if slCrashTriggered v.slProfit v.profitRaw v.tickDrop cfg.slCrashPnlPct cfg.slCrashTickDropPct
      inSlGrace then
    .stop { pos with isClosing := true } (some ⟨100, slReason v pos true none, true⟩)
  else
    let streak := slStreak cfg v pos
    if ¬ inSlGrace ∧ streak ≥ slConfirm % 256 then
      .stop { pos with slBelowFloorStreak := streak, isClosing := true }
        (some ⟨100, slReason v pos false (some slConfirm), false⟩)
    else
      .next { pos with slBelowFloorStreak := streak }

/-- 3. Market-cap ceiling: a partial lock, the rest trails on. -/
def exitMcapCeiling (v : TickView) (pos : Position) : Flow :=
  if cfg.mcapCeilingSol > 0 ∧ v.currentMcap ≥ cfg.mcapCeilingSol ∧ ¬ pos.mcapCeilingTriggered ∧
      ¬ pos.pendingPartialSell then
    let sellPct := min (max cfg.mcapCeilingPartialSellPct 1) 99
    let floor :=
      if pos.trailingActive then pos.exitProfitFloor
      else max pos.exitProfitFloor (tpConfig cfg pos).trailingFloorProfitPct
    .stop
      { pos with
        mcapCeilingTriggered := true
        useJupiterExitMcap := true
        trailingActive := true
        exitProfitFloor := floor
        pendingPartialSell := true }
      (some ⟨sellPct, .mcapCeiling sellPct, false⟩)
  else
    .next pos

/-- 4. Trailing stop. -/
def exitTrailing (v : TickView) (pos : Position) : Flow :=
  let drawdown := trailingDrawdownPct cfg v pos
  if pos.trailingActive ∧ v.currentMcap ≤ pos.highestMcap * (1 - drawdown / 100) then
    .stop { pos with isClosing := true }
      (some ⟨100, .trailingExit (if cfg.exitV4.enabled then some drawdown else none), false⟩)
  else
    .next pos

/-- Raise the profit floor when a protection level is reached. -/
def upgradeProtection (v : TickView) (pos : Position) : Position :=
  let tp := tpConfig cfg pos
  if v.profit ≥ tp.trailingActivateProfitPct then
    if ¬ pos.trailingActive then
      { pos with trailingActive := true, exitProfitFloor := tp.trailingFloorProfitPct }
    else pos
  else if v.profit ≥ tp.smartStopActivateProfitPct ∧
      pos.exitProfitFloor < tp.smartStopFloorProfitPct then
    { pos with exitProfitFloor := tp.smartStopFloorProfitPct }
  else
    pos

/-- One partial sell at a time. -/
def skipWhilePartialPending (pos : Position) : Flow :=
  if pos.pendingPartialSell then .stop pos none else .next pos

/-- From TP3 on the sell may shrink to leave a moonbag. -/
def tpSellPct (pos : Position) (n : TpLevel) : ℚ :=
  let base := (tpConfig cfg pos).sellPct n
  if cfg.exitV4.enabled ∧ cfg.exitV4.adaptiveMoonbagEnabled ∧ n ≠ .tp1 ∧ n ≠ .tp2 then
    adaptiveMoonbagSellPct base pos.liveScore pos.exitPhase
  else
    base

/-- 5. One take-profit level. -/
def exitTakeProfit (n : TpLevel) (v : TickView) (pos : Position) : Flow :=
  let pct := (tpConfig cfg pos).pct n
  if v.profit ≥ pct ∧ ¬ pos.tpTriggered n then
    let state := if cfg.exitV4.enabled then some (pos.exitProfile, pos.exitPhase) else none
    .stop { pos.setTpTriggered n with pendingPartialSell := true }
      (some ⟨tpSellPct cfg pos n, .takeProfit n pct state, false⟩)
  else
    .next pos

/-! ## The turn of a row -/

/-- What one tick makes of one row. -/
structure TickResult where
  pos : Position
  action : Option SellAction
  poll : Option ExitMcapPoll

/-- The exits, in the order of the source. -/
def runExits (v : TickView) (pos : Position) : Flow :=
  (exitMomentumDecay cfg v pos).bind fun pos =>
  (exitTimeKill cfg v pos).bind fun pos =>
  (exitStopLoss cfg v pos).bind fun pos =>
  (exitMcapCeiling cfg v pos).bind fun pos =>
  (exitTrailing cfg v pos).bind fun pos =>
  (skipWhilePartialPending (upgradeProtection cfg v pos)).bind fun pos =>
  (exitTakeProfit cfg .tp1 v pos).bind fun pos =>
  (exitTakeProfit cfg .tp2 v pos).bind fun pos =>
  (exitTakeProfit cfg .tp3 v pos).bind fun pos =>
  (exitTakeProfit cfg .tp4 v pos).bind fun pos =>
  exitTakeProfit cfg .tp5 v pos

/-- Everything before the exits: poll, observation, live score, staircase, time-kill window. -/
def prepareRow (mint : Address) (hasRpc : Bool) (currentTime : ℕ) (pos : Position) :
    Position × TickView × Option ExitMcapPoll :=
  let (pos, poll) := pollExitMcap mint hasRpc currentTime pos
  let (pos, v) := observe cfg currentTime pos
  let pos := lockStaircase cfg (refreshLiveLite cfg v pos)
  (noteTimeKillWindow cfg v pos, v, poll)

def tickPosition (mint : Address) (hasRpc : Bool) (currentTime : ℕ) (pos : Position) :
    TickResult :=
  if pos.isClosing then
    ⟨pos, none, none⟩
  else
    let (pos, v, poll) := prepareRow cfg mint hasRpc currentTime pos
    let flow := runExits cfg v pos
    ⟨flow.pos, flow.action, poll⟩

end

end Loggaper
