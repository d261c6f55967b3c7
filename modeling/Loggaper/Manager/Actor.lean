import Loggaper.Autobuy.CurveQuarantine
import Loggaper.Manager.Tick
import Loggaper.Scoring.StrategyController

/-!
# The position manager

`PositionManagerActor` takes one message at a time. A turn gives the next state, the background
tasks that the turn spawns, and the effects that the world sees. What the turn reads from outside
(the clock, the answer of `broker.sell`) is an argument.

Left out: dashboard events, log lines, the learning log, latency counters, wallet balances and the
developer blacklist. None of them feeds back into what the manager decides.
-/

namespace Loggaper

/-- One row of the trade history. -/
structure BotTradeEntry where
  walletId : String
  mint : Address
  entryMcapSol : ℚ
  investedSol : ℚ
  realizedPnlPct : ℚ
  closeReason : SellReason
  entryAt : ℕ
  closedAt : ℕ
  exitMcapSol : ℚ
  deriving DecidableEq

/-- What a turn does outside the manager, with the row it does it for. -/
inductive Effect
  | brokerBuy (key : PositionKey) (amountSol : ℚ)
  /-- A `BuyCompleted` with a receipt was taken. -/
  | buyConfirmed (key : PositionKey) (receipt : BuyReceipt)
  | positionOpen (key : PositionKey)
  | brokerSell (key : PositionKey) (qty : ℚ) (closeAccountAfter : Bool)
      (result : Except BrokerError SellReceipt)
  | notePositionClosed (key : PositionKey) (pnlSol : ℚ)
  | saveBotTrade (key : PositionKey) (entry : BotTradeEntry)
  | noteOutcome (key : PositionKey) (dev : Address) (pnlPct : ℚ)
  | noteTradeOutcome (key : PositionKey) (buyers : List Address) (pnlPct : ℚ)
  | forgetPosition (key : PositionKey)

/-- A spawned task that still has messages to send. -/
inductive Task
  /-- The staggered messages of one accepted signal, in order. -/
  | fanOut (left : List PositionMessage)
  /-- `broker.buy` is in flight. -/
  | buy (order : BuyOrder) (latestPool : Pool)
  /-- A scheduled sell, delayed or urgent. -/
  | sell (key : PositionKey) (percent : ℚ) (reason : SellReason)
  | exitMcapPoll (poll : ExitMcapPoll)
  | liveSnapshot (mint : Address) (prev : Option EarlyTapePoint) (entryTime : ℕ)
      (earlyBuyers : List Address)

/-- What one turn reads from outside. -/
structure TurnEnv where
  /-- The readings of the wall clock in this turn, in seconds and in their order. -/
  clock : ℕ → ℕ
  /-- The monotonic clock, in milliseconds. -/
  instantMs : ℕ
  /-- The answer of `broker.sell`, when the turn asks for it. -/
  sell : Except BrokerError SellReceipt
  /-- Which of a mint's rows a hash-map search finds first. -/
  pick : Address → ℕ

structure PositionManagerActor where
  config : SmartBuyConfig
  wallets : WalletRegistry
  positions : KeyedMap PositionKey Position
  /-- The mint has passed `InitiateBuy` and its fan-out is not over. -/
  pendingMints : Finset Address
  /-- Per-wallet buy currently executing. -/
  pendingWalletBuys : Finset PositionKey
  /-- Mints that have been fully closed: never re-enter. -/
  closedMints : Finset Address
  poolCache : KeyedMap Address Pool
  bucketCache : KeyedMap Address Pool
  lastPrintTime : ℕ
  curveQuarantineCfg : CurveQuarantineConfig
  curveQuarantine : CurveQuarantineCache
  /-- `post_exit_rpc` is set. -/
  hasRpc : Bool
  paused : Bool
  strategy : StrategyController
  /-- `dev_ranker` is set. -/
  hasDevRanker : Bool
  /-- `smart_money` is set. -/
  hasSmartMoney : Bool
  lastLiveSnapshotAt : KeyedMap Address ℕ

/-- The result of one turn. -/
structure Outcome where
  actor : PositionManagerActor
  spawned : List Task
  effects : List Effect

/-- An outcome after some effects that came before it. -/
def Outcome.after (o : Outcome) (effects : List Effect) : Outcome :=
  { o with effects := effects ++ o.effects }

namespace PositionManagerActor

variable (m : PositionManagerActor)

/-- The turn changes nothing. -/
def idle : Outcome := ⟨m, [], []⟩

def anyPositionForMint (mint : Address) : Bool := m.positions.keys.any (·.mint == mint)

def openMints : Finset Address := (KeyedMap.keySet m.positions).image (·.mint)

/-- Open mints and pending ones, as the source counts them. -/
def uniqueOpenMints : UInt32 := UInt32.ofNat (m.openMints ∪ m.pendingMints).card

def maybeFinalizeClosedMint (mint : Address) : PositionManagerActor :=
  if m.anyPositionForMint mint then m
  else { m with closedMints := insert mint m.closedMints, poolCache := m.poolCache.erase mint }

/-- Change every row of one mint. -/
def updateRows (mint : Address) (f : Position → Position) : PositionManagerActor :=
  { m with positions := KeyedMap.mapVals (fun k p => if k.mint = mint then f p else p) m.positions }

/-! ## Pools and tape -/

def updatePool (pool : Pool) : Outcome :=
  let m := { m with poolCache := m.poolCache.insert pool.mint pool }
  ⟨m.updateRows pool.mint fun p => { p with pool := pool }, [], []⟩

/-- A live refresh starts from the tape of one row of the mint. -/
def spawnLiveSnapshotRefresh (env : TurnEnv) (mint : Address) : List Task :=
  if mint ∈ m.bucketCache then
    let rows := m.positions.entries.filter fun e => e.1.mint == mint
    match rows[env.pick mint % rows.length]? with
    | some ⟨_, p⟩ => [.liveSnapshot mint p.liveTapeCurr p.entryTime p.earlyBuyers]
    | none => []
  else
    []

def updateTokenBucket (env : TurnEnv) (pool : Pool) : Outcome :=
  let m := { m with
    poolCache := m.poolCache.insert pool.mint pool
    bucketCache := m.bucketCache.insert pool.mint pool }
  let m := m.updateRows pool.mint fun p => { p with pool := pool }
  ⟨m, if m.anyPositionForMint pool.mint then m.spawnLiveSnapshotRefresh env pool.mint else [], []⟩

/-- One row takes over a live snapshot. -/
def applyLive (v4 : ExitEngineV4Config) (env : TurnEnv) (live : LivePositionSnapshot)
    (pos : Position) : Position :=
  let held := env.clock 0 - pos.entryTime
  let vel := pos.timeKillMcapVelocityPctPerSec pos.enterMcap.toFloat
  let profit := pos.pnl
  let entryVel : ℚ := (pos.learningSnapshot.map (·.velocityPct)).getD 0
  let metrics :=
    liveMetricsFromSnapshot live pos.livePrevBuyersPerSec vel pos.livePrevVelocity entryVel
      profit v4
  let liveScore := max (calculateLiveScore metrics) pos.liveScoreEntryFloor
  let entryTier := (pos.learningSnapshot.map (·.tier)).getD ""
  let phase :=
    if inExitGracePeriodTier held entryTier v4 then pos.exitPhase
    else transitionPositionPhase pos.exitPhase liveScore metrics.momentumDecay profit v4
  let upgrade := maybeUpgradeRunner v4 pos.exitProfile metrics liveScore pos.holdMode
  { pos with
    liveTapePrev := pos.liveTapeCurr
    liveTapeCurr := some live.tape
    livePrevBuyersPerSec := pos.liveBuyersPerSec
    liveBuyersPerSec := live.buyersPerSec
    livePrevVelocity := vel
    liveScore := liveScore
    lastLiveScoreAt := env.clock 1
    exitPhase := phase
    exitProfile := upgrade.1
    holdMode := upgrade.2 }

def applyLiveSnapshot (env : TurnEnv) (mint : Address) (live : LivePositionSnapshot) : Outcome :=
  ⟨m.updateRows mint (applyLive m.config.exitV4 env live), [], []⟩

/-- One row takes over a polled market cap. -/
def applyExitMcap (mcap : ℚ) (useJupiter : Bool) (pos : Position) : Position :=
  if useJupiter then { pos with useJupiterExitMcap := true, exitMcapJupiter := some mcap } else pos

def applyExitMcapRefresh (mint : Address) (mcap : ℚ) (useJupiter : Bool) : Outcome :=
  ⟨m.updateRows mint (applyExitMcap mcap useJupiter), [], []⟩

def setPaused (paused : Bool) : Outcome := ⟨{ m with paused := paused }, [], []⟩

/-! ## Opening -/

/-- A signal on a mint that is open, pending or closed is a duplicate. -/
def isDuplicateSignal (mint : Address) : Bool :=
  m.anyPositionForMint mint || mint ∈ m.pendingMints || mint ∈ m.closedMints

def isQuarantined (mint : Address) (now : ℕ) : Bool :=
  m.curveQuarantineCfg.enabled && (m.curveQuarantine.prune now).isActive mint now

def strategyGate (env : TurnEnv) : BuyDecision × StrategyController :=
  m.strategy.canOpen m.uniqueOpenMints (env.clock 1)

/-- The messages of an accepted signal: one buy per enabled wallet, then the end of the window. -/
def fanOutMessages (pool : Pool) (amountSol : ℚ) (buyTier : Tier) (devAddress : Option Address)
    (earlyBuyers : List Address) (learningSnapshot : Option LearningTradeSnapshot) :
    List PositionMessage :=
  (m.wallets.enabledWallets.map fun w =>
    .executeBuy ⟨pool.mint, w.id, w.amountForSignal amountSol buyTier, devAddress, earlyBuyers,
      learningSnapshot⟩) ++ [.clearPendingMint pool.mint]

/-- The rows that a signal on this mint orders. -/
def orderedKeys (mint : Address) : List PositionKey :=
  m.wallets.enabledWallets.map fun w => ⟨mint, w.id⟩

def initiateBuy (env : TurnEnv) (pool : Pool) (amountSol : ℚ) (buyTier : Tier)
    (devAddress : Option Address) (earlyBuyers : List Address)
    (learningSnapshot : Option LearningTradeSnapshot) : Outcome :=
  if m.paused then m.idle
  else if m.isDuplicateSignal pool.mint then m.idle
  else
    let wallSecs := env.clock 0
    let quarantined := m.isQuarantined pool.mint wallSecs
    let m := { m with curveQuarantine := m.curveQuarantine.prune wallSecs }
    if quarantined then m.idle
    else
      let gate := m.strategyGate env
      let m := { m with strategy := gate.2 }
      if gate.1 ≠ .allow then m.idle
      else
        let m := { m with poolCache := m.poolCache.insert pool.mint pool }
        -- no enabled wallet: the mint is pending for the time of the check only
        if m.wallets.enabledWallets.isEmpty then m.idle
        else
          let m := { m with
            pendingMints := insert pool.mint m.pendingMints
            strategy := m.strategy.notePositionOpened (env.clock 2) }
          ⟨m, [.fanOut (m.fanOutMessages pool amountSol buyTier devAddress earlyBuyers
            learningSnapshot)], []⟩

def clearPendingMint (mint : Address) : Outcome :=
  ⟨{ m with pendingMints := m.pendingMints.erase mint }, [], []⟩

def executeBuy (order : BuyOrder) : Outcome :=
  let dropped := { m with pendingWalletBuys := m.pendingWalletBuys.erase order.key }
  if m.paused then dropped.idle
  else if (m.wallets.get order.walletId).isNone then dropped.idle
  else if order.key ∈ m.positions then dropped.idle
  else
    match AList.lookup order.mint m.poolCache with
    | none => dropped.idle
    | some latestPool =>
      ⟨{ m with pendingWalletBuys := insert order.key m.pendingWalletBuys },
        [.buy order latestPool], [.brokerBuy order.key order.amountSol]⟩

/-! ## Fills -/

/-- Score-time against post-fill market cap. -/
structure FillMcapSpike where
  scoreMcapSol : ℚ
  fillMcapSol : ℚ
  ratio : ℚ
  maxRatio : ℚ
  minRatio : ℚ
  adverse : Bool

def detectFillMcapSpike (cfg : SmartBuyConfig) (snapshot : Option LearningTradeSnapshot)
    (receipt : BuyReceipt) : Option FillMcapSpike :=
  if ¬ cfg.fillMcapAbortEnabled then none
  else
    match snapshot, receipt.entryMcapFillSol.filter (0 < ·) with
    | some snap, some fillMcap =>
      let scoreMcap := snap.entryMcapSol
      if scoreMcap ≤ 0 then none
      else
        let ratio := fillMcap / scoreMcap
        let maxRatio := max cfg.fillMcapAbortMaxRatio 1
        let minRatio := min (max cfg.fillMcapAbortMinRatio (1 / 10)) 1
        if ratio > maxRatio then some ⟨scoreMcap, fillMcap, ratio, maxRatio, minRatio, false⟩
        else if ratio < minRatio then some ⟨scoreMcap, fillMcap, ratio, maxRatio, minRatio, true⟩
        else none
    | _, _ => none

/-- Market cap that seeds the row: the fill's, or a lower score-time one within a bound. -/
def entryBaselineMcap (cfg : SmartBuyConfig) (snapshot : Option LearningTradeSnapshot)
    (receipt : BuyReceipt) : Option ℚ :=
  (receipt.entryMcapFillSol.filter (0 < ·)).map fun fill =>
    if cfg.honestEntryBaseline then
      match (snapshot.map (·.entryMcapSol)).filter (0 < ·) with
      | some score =>
        max (min fill score) (fill * min (max cfg.honestEntryBaselineMinRatio 0) 1)
      | none => fill
    else
      fill

/-- The row that a fill opens. -/
def openedPosition (cfg : SmartBuyConfig) (order : BuyOrder) (latestPool : Pool)
    (receipt : BuyReceipt) (currentTime : ℕ) : Position :=
  let tokens := Amount.fromFloatNative receipt.tokensReceived
  let baseline := entryBaselineMcap cfg order.learningSnapshot receipt
  let pos := Position.new order.walletId latestPool tokens currentTime baseline
  let pos := match baseline.filter (0 < ·) with
    | some entryMcap =>
      { ({ pos with exitMcapTicks := [] }).pushExitMcapTick entryMcap cfg.exitMcapMedianTicks with
        slPrevRawMcap := some entryMcap }
    | none => pos
  let entry : ℕ × ℕ × ℚ := match order.learningSnapshot with
    | some s => (s.buyerCount, s.smartWalletCount, s.buyToSellRatio)
    | none => (order.earlyBuyers.length, 0, 0)
  let pos := { pos with
    exitProfitFloor := cfg.exitProfitFloor
    spentSol := order.amountSol
    devAddress := order.devAddress
    earlyBuyers := order.earlyBuyers
    tkEntryBuyers := entry.1
    tkEntrySmart := entry.2.1
    tkEntryB2s := entry.2.2 }
  let pos :=
    if cfg.exitV4.enabled then
      let tk : TkEntryThresholds := ⟨cfg.timeKillStrongMinBuyers, cfg.timeKillStrongMinB2s,
        cfg.timeKillWeakMaxBuyers, cfg.timeKillWeakMaxB2s⟩
      let profile := resolveEntryProfile tk cfg.exitV4 pos order.learningSnapshot
      { pos with
        exitProfile := profile.1
        holdMode := profile.2
        exitPhase := .exploration
        liveScoreEntryFloor := entryLiveScoreFloor order.learningSnapshot
        liveScore := entryLiveScoreFloor order.learningSnapshot
        lastLiveScoreAt := currentTime }
    else pos
  let pos := { pos with learningSnapshot := order.learningSnapshot }
  pos.pushExitMcapTick pos.enterMcap.toFloat cfg.exitMcapMedianTicks

/-- The buy's bookkeeping is over. -/
def forgetWalletBuy (key : PositionKey) : PositionManagerActor :=
  { m with pendingWalletBuys := m.pendingWalletBuys.erase key }

/-- The fill opens its row, whatever is there. -/
def openPosition (env : TurnEnv) (order : BuyOrder) (latestPool : Pool) (receipt : BuyReceipt) :
    Outcome :=
  let spawned :=
    if order.mint ∈ m.bucketCache then m.spawnLiveSnapshotRefresh env order.mint else []
  let pos := openedPosition m.config order latestPool receipt (env.clock 0)
  ⟨{ m with positions := m.positions.insert order.key pos }, spawned, [.positionOpen order.key]⟩

def abortReason (spike : FillMcapSpike) : SellReason :=
  .fillMcapAbort spike.adverse spike.ratio
    (if spike.adverse then spike.minRatio else spike.maxRatio) spike.scoreMcapSol spike.fillMcapSol

/-- The fill is sold again at once, and no row is opened. -/
def abortFill (env : TurnEnv) (order : BuyOrder) (latestPool : Pool) (spike : FillMcapSpike)
    (r : SellReceipt) : Outcome :=
  let pnlPct : ℚ :=
    if order.amountSol > 0 then (r.solReceivedActual / order.amountSol - 1) * 100 else 0
  let pnlSol := r.solReceivedActual - order.amountSol
  let entry : BotTradeEntry := {
    walletId := order.walletId
    mint := order.mint
    entryMcapSol := spike.fillMcapSol
    investedSol := order.amountSol
    realizedPnlPct := pnlPct
    closeReason := abortReason spike
    entryAt := env.clock 0
    closedAt := env.clock 0
    exitMcapSol := latestPool.marketCap.toFloat }
  ⟨{ m with strategy := m.strategy.notePositionClosed pnlSol (env.clock 1) }, [],
    [.notePositionClosed order.key pnlSol, .saveBotTrade order.key entry]⟩

/-- The mint cannot be bought at all: it is not on chain, or has no route. -/
def refusesMint (e : BrokerError) : Bool := isBuyMintUnavailable e || e.isPostGradNoRoute

/-- A buy has failed. A refused mint closes when nothing is open on it. -/
def applyBuyError (mint : Address) (e : BrokerError) : PositionManagerActor :=
  if refusesMint e ∧ ¬ m.anyPositionForMint mint then
    { m with closedMints := insert mint m.closedMints }
  else m

def applyBuyResult (env : TurnEnv) (order : BuyOrder) (latestPool : Pool)
    (result : Except BrokerError BuyReceipt) : Outcome :=
  let m := m.forgetWalletBuy order.key
  match result with
  | .error e => (m.applyBuyError order.mint e).idle
  | .ok receipt =>
    let confirmed : List Effect := [.buyConfirmed order.key receipt]
    match detectFillMcapSpike m.config order.learningSnapshot receipt,
      m.wallets.get order.walletId with
    | some spike, some _ =>
      let sold : List Effect := [.brokerSell order.key receipt.tokensReceived true env.sell]
      match env.sell with
      | .ok r => (m.abortFill env order latestPool spike r).after (confirmed ++ sold)
      | .error _ => (m.openPosition env order latestPool receipt).after (confirmed ++ sold)
    | _, _ => (m.openPosition env order latestPool receipt).after confirmed

/-! ## Closing -/

/-- The row after a broker error on its sell. -/
def rowAfterSellError (e : BrokerError) (percent : ℚ) (pos : Position) : Position :=
  if e.requiresManualSell then { pos with isClosing := false, pendingPartialSell := false }
  else if percent ≥ 100 then { pos with isClosing := false, pendingPartialSell := false }
  else { pos with pendingPartialSell := false }

/-- The row after a partial sell of `sellQty`. -/
def rowAfterPartialSell (r : SellReceipt) (sellQty : ℚ) (pos : Position) : Position :=
  { pos with
    totalReturned := pos.totalReturned + r.solReceivedActual
    holdings := Amount.fromFloatNative (pos.holdings.toFloat - sellQty)
    pendingPartialSell := false }

/-- Realized SOL result of a closed row, and in percent. -/
def closedPnlSol (pos : Position) (totalReturned : ℚ) : ℚ :=
  if pos.spentSol > 0 then totalReturned - pos.spentSol else 0

def closedPnlPctSol (pos : Position) (totalReturned : ℚ) : ℚ :=
  if pos.spentSol > 0 then (totalReturned / pos.spentSol - 1) * 100
  else (totalReturned / pos.initialHoldings.toFloat - 1) * 100

/-- Percent for the trade history: on the SOL spent, else on the price move. -/
def closedPnlPctRow (pos : Position) (totalReturned : ℚ) : ℚ :=
  let entryMcap := pos.enterMcap.toFloat
  if pos.spentSol > 0 then closedPnlPctSol pos totalReturned
  else if entryMcap > 0 then (pos.pool.marketCap.toFloat / entryMcap - 1) * 100
  else 0

/-- The records of a full close: strategy, quarantine, developer and buyers, trade history. -/
def recordClose (env : TurnEnv) (key : PositionKey) (reason : SellReason) (pos : Position)
    (totalReturned : ℚ) : Outcome :=
  let pnlSol := closedPnlSol pos totalReturned
  let pnlPctSol := closedPnlPctSol pos totalReturned
  let filtPnl := pos.pnlFiltered m.config.exitMcapBandLowRatio m.config.exitMcapBandHighRatio
  let rawPnl := pos.pnlAtMcap pos.exitRawMcap
  let quarantine :=
    if shouldQuarantineMint reason.isSlCrash pnlPctSol filtPnl rawPnl m.curveQuarantineCfg then
      m.curveQuarantine.insert key.mint
        (wrapU64 (env.clock 1 + m.curveQuarantineCfg.cooldownSecs))
    else m.curveQuarantine
  let devEffects : List Effect := match pos.devAddress with
    | some dev => if m.hasDevRanker then [.noteOutcome key dev pnlPctSol] else []
    | none => []
  let buyerEffects : List Effect :=
    if pos.earlyBuyers ≠ [] ∧ m.hasSmartMoney then
      [.noteTradeOutcome key pos.earlyBuyers pnlPctSol]
    else []
  let entry : BotTradeEntry := {
    walletId := key.walletId
    mint := key.mint
    entryMcapSol := pos.enterMcap.toFloat
    investedSol := if pos.spentSol > 0 then pos.spentSol else 0
    realizedPnlPct := closedPnlPctRow pos totalReturned
    closeReason := reason
    entryAt := pos.entryTime
    closedAt := env.clock 3
    exitMcapSol := pos.pool.marketCap.toFloat }
  ⟨{ m with
      strategy := m.strategy.notePositionClosed pnlSol (env.clock 0)
      curveQuarantine := quarantine },
    [], .notePositionClosed key pnlSol :: devEffects ++ buyerEffects ++ [.saveBotTrade key entry]⟩

def executeSell (env : TurnEnv) (key : PositionKey) (percent : ℚ) (reason : SellReason) : Outcome :=
  match m.wallets.get key.walletId, AList.lookup key m.positions with
  | some _, some pos =>
    let sellQty := pos.holdings.toFloat * (percent / 100)
    let sold : List Effect := [.brokerSell key sellQty (percent ≥ 100) env.sell]
    match env.sell with
    | .error e =>
      ⟨{ m with positions := m.positions.insert key (rowAfterSellError e percent pos) }, [], sold⟩
    | .ok r =>
      if percent < 100 then
        ⟨{ m with positions := m.positions.insert key (rowAfterPartialSell r sellQty pos) }, [],
          sold⟩
      else
        let m := { m with positions := m.positions.erase key }
        let m := m.maybeFinalizeClosedMint key.mint
        (m.recordClose env key reason pos (pos.totalReturned + r.solReceivedActual)).after sold
  | _, _ => m.idle

/-- The rows that the operator drops. -/
def abandonedKeys (mint : Address) (walletId : Option String) : List PositionKey :=
  m.positions.keys.filter fun k => k.mint == mint && (walletId.all fun w => w == k.walletId)

/-- The operator drops the rows of a mint, of one wallet or of all, without a sell. -/
def abandonPosition (mint : Address) (walletId : Option String) : Outcome :=
  let keys := m.abandonedKeys mint walletId
  let forgotten := keys.filter fun k => (m.wallets.get k.walletId).isSome
  let m := { m with positions := KeyedMap.eraseAll m.positions keys }
  ⟨m.maybeFinalizeClosedMint mint, [], forgotten.map .forgetPosition⟩

/-! ## Ticks -/

/-- A mint with a bucket whose last live refresh is old enough. -/
def liveSnapshotDue (nowMs : ℕ) (mint : Address) : Bool :=
  let interval := max m.config.exitV4LiveSnapshotIntervalMs 100
  mint ∈ m.bucketCache &&
    (AList.lookup mint m.lastLiveSnapshotAt).all fun t => decide (interval ≤ nowMs - t)

def refreshDueSnapshots (env : TurnEnv) : PositionManagerActor × List Task :=
  if m.config.exitV4.enabled then
    let mints := (m.positions.keys.map (·.mint)).dedup.filter (m.liveSnapshotDue env.instantMs)
    ({ m with
        lastLiveSnapshotAt :=
          mints.foldl (fun at_ mint => at_.insert mint env.instantMs) m.lastLiveSnapshotAt },
      mints.flatMap (m.spawnLiveSnapshotRefresh env))
  else
    (m, [])

def tickRow (now : ℕ) (k : PositionKey) (pos : Position) : TickResult :=
  tickPosition m.config k.mint m.hasRpc now pos

/-- The tasks of one row's turn: its poll and its sell. -/
def rowTasks (k : PositionKey) (r : TickResult) : List Task :=
  (r.poll.map Task.exitMcapPoll).toList ++
    (r.action.map fun a => Task.sell k a.percent a.reason).toList

def processPositions (env : TurnEnv) : Outcome :=
  let now := env.clock 0
  ⟨{ m with
      positions := KeyedMap.mapVals (fun k p => (m.tickRow now k p).pos) m.positions
      lastPrintTime := max m.lastPrintTime now },
    m.positions.entries.flatMap fun e => rowTasks e.1 (m.tickRow now e.1 e.2), []⟩

def tick (env : TurnEnv) : Outcome :=
  let refreshed := m.refreshDueSnapshots env
  let o := refreshed.1.processPositions env
  { o with spawned := refreshed.2 ++ o.spawned }

/-! ## The loop body -/

/-- One turn: the next message of the mailbox. -/
def handle (env : TurnEnv) : PositionMessage → Outcome
  | .updatePool pool => m.updatePool pool
  | .updateTokenBucket pool => m.updateTokenBucket env pool
  | .applyLiveSnapshot mint live => m.applyLiveSnapshot env mint live
  | .setPaused paused => m.setPaused paused
  | .initiateBuy pool amountSol buyTier dev early snap =>
    m.initiateBuy env pool amountSol buyTier dev early snap
  | .clearPendingMint mint => m.clearPendingMint mint
  | .executeBuy order => m.executeBuy order
  | .buyCompleted order latestPool result => m.applyBuyResult env order latestPool result
  | .executeSell key percent reason => m.executeSell env key percent reason
  | .abandonPosition mint walletId => m.abandonPosition mint walletId
  | .tick => m.tick env
  | .applyExitMcapRefresh mint mcap useJupiter => m.applyExitMcapRefresh mint mcap useJupiter

/-! ## What a turn decides

The branches that matter to the gates, as predicates on the state before the turn. -/

/-- The signal passes every gate and has a wallet to buy with. -/
def acceptsSignal (env : TurnEnv) (mint : Address) : Bool :=
  !m.paused && !m.isDuplicateSignal mint && !m.isQuarantined mint (env.clock 0) &&
    (m.strategyGate env).1 == .allow && !m.wallets.enabledWallets.isEmpty

/-- The order goes to the broker. -/
def issuesBuy (order : BuyOrder) : Bool :=
  !m.paused && (m.wallets.get order.walletId).isSome && order.key ∉ m.positions &&
    (AList.lookup order.mint m.poolCache).isSome

/-- The fill is sold again at once, and the broker takes it. -/
def abortsFill (env : TurnEnv) (order : BuyOrder) (receipt : BuyReceipt) : Bool :=
  (detectFillMcapSpike m.config order.learningSnapshot receipt).isSome &&
    (m.wallets.get order.walletId).isSome && env.sell.toBool

/-- The sell finds its row and its wallet. -/
def findsRow (key : PositionKey) : Bool := (m.wallets.get key.walletId).isSome && key ∈ m.positions

/-- The sell closes its row. -/
def closesRow (env : TurnEnv) (key : PositionKey) (percent : ℚ) : Bool :=
  m.findsRow key && env.sell.toBool && 100 ≤ percent

/-- **The two ends of a fill.** It is sold again at once, or it opens its row. -/
theorem applyBuyResult_ok (env : TurnEnv) (order : BuyOrder) (pool : Pool) (r : BuyReceipt) :
    (m.abortsFill env order r = true ∧ ∃ spike sr, env.sell = .ok sr ∧
        detectFillMcapSpike m.config order.learningSnapshot r = some spike ∧
        m.applyBuyResult env order pool (.ok r) =
          ((m.forgetWalletBuy order.key).abortFill env order pool spike sr).after
            [.buyConfirmed order.key r, .brokerSell order.key r.tokensReceived true env.sell]) ∨
      (m.abortsFill env order r = false ∧ ∃ sold : List Effect,
        (∀ e ∈ sold, e = .brokerSell order.key r.tokensReceived true env.sell) ∧
        m.applyBuyResult env order pool (.ok r) =
          ((m.forgetWalletBuy order.key).openPosition env order pool r).after
            (.buyConfirmed order.key r :: sold)) := by
  have hspike' : detectFillMcapSpike (m.forgetWalletBuy order.key).config order.learningSnapshot r =
      detectFillMcapSpike m.config order.learningSnapshot r := rfl
  have hwallet' : (m.forgetWalletBuy order.key).wallets.get order.walletId =
      m.wallets.get order.walletId := rfl
  simp only [applyBuyResult, hspike', hwallet', abortsFill]
  cases detectFillMcapSpike m.config order.learningSnapshot r with
  | none => exact .inr ⟨rfl, [], by simp, rfl⟩
  | some spike =>
    cases m.wallets.get order.walletId with
    | none => exact .inr ⟨rfl, [], by simp, rfl⟩
    | some w =>
      cases env.sell with
      | error e => exact .inr ⟨rfl, [_], fun e' he => List.mem_singleton.mp he, rfl⟩
      | ok sr => exact .inl ⟨rfl, spike, sr, rfl, rfl, rfl⟩

end PositionManagerActor

end Loggaper
