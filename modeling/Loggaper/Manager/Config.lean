import Loggaper.Autobuy.Positions
import Loggaper.Autobuy.WalletRegistry

/-!
# Configuration and messages of the position manager

`SmartBuyConfig` with the defaults of the source, the reason of a sell, and the messages of the
actor. Reasons keep the numbers that their texts show. The queries that only answer a snapshot
(`GetPnl`, `GetOpenPositions`, `GetStrategySnapshot`) are left out: they change nothing.
-/

namespace Loggaper

structure SmartBuyConfig where
  amountSol : ℚ := 1 / 10
  tp1Pct : ℚ := 30
  tp1SellPct : ℚ := 30
  tp2Pct : ℚ := 50
  tp2SellPct : ℚ := 15
  tp3Pct : ℚ := 100
  tp3SellPct : ℚ := 10
  tp4Pct : ℚ := 150
  tp4SellPct : ℚ := 10
  tp5Pct : ℚ := 200
  tp5SellPct : ℚ := 10
  exitProfitFloor : ℚ := -40
  timeKillSecs : ℕ := 25
  timeKillMinProfitPct : ℚ := 10
  timeKillAdaptive : Bool := true
  timeKillWeakSecs : ℕ := 22
  timeKillStrongSecs : ℕ := 60
  timeKillNeutralSecs : ℕ := 32
  timeKillStrongMinBuyers : ℕ := 38
  timeKillStrongMinB2s : ℚ := 9 / 2
  timeKillWeakMaxBuyers : ℕ := 28
  timeKillWeakMaxB2s : ℚ := 3
  timeKillVelStrong : ℚ := 3 / 50
  timeKillVelFlat : ℚ := 1 / 40
  timeKillEarlyGreenPct : ℚ := 8
  timeKillPeakDdForWeak : ℚ := 11 / 200
  trailingStopDrawdownPct : ℚ := 26
  fillMcapAbortEnabled : Bool := true
  fillMcapAbortMaxRatio : ℚ := 3 / 2
  fillMcapAbortMinRatio : ℚ := 39 / 50
  honestEntryBaseline : Bool := true
  honestEntryBaselineMinRatio : ℚ := 17 / 20
  slConfirmTicks : ℕ := 3
  slGraceSecs : ℕ := 5
  slCrashPnlPct : ℚ := -28
  slCrashTickDropPct : ℚ := 18
  exitMcapMedianTicks : ℕ := 5
  exitMcapBandLowRatio : ℚ := 1 / 50
  exitMcapBandHighRatio : ℚ := 50
  mcapCeilingSol : ℚ := 350
  mcapCeilingPartialSellPct : ℚ := 65
  exitV4 : ExitEngineV4Config := {}
  exitV4LiveSnapshotIntervalMs : ℕ := 500

/-- The take-profit parameters when V4 is off. -/
def SmartBuyConfig.plainProfile (cfg : SmartBuyConfig) : ExitTpProfile where
  tp1Pct := cfg.tp1Pct
  tp1SellPct := cfg.tp1SellPct
  tp2Pct := cfg.tp2Pct
  tp2SellPct := cfg.tp2SellPct
  tp3Pct := cfg.tp3Pct
  tp3SellPct := cfg.tp3SellPct
  tp4Pct := cfg.tp4Pct
  tp4SellPct := cfg.tp4SellPct
  tp5Pct := cfg.tp5Pct
  tp5SellPct := cfg.tp5SellPct
  trailingStopDrawdownPct := cfg.trailingStopDrawdownPct
  trailingActivateProfitPct := 80
  trailingFloorProfitPct := 35
  smartStopActivateProfitPct := 50
  smartStopFloorProfitPct := 5

/-- A configuration whose take-profit levels all sell less than the whole position. -/
structure SmartBuyConfig.PartialLevels (cfg : SmartBuyConfig) : Prop where
  plain : cfg.plainProfile.Partial
  weak : cfg.exitV4.weak.Partial
  neutral : cfg.exitV4.neutral.Partial
  strong : cfg.exitV4.strong.Partial
  runner : cfg.exitV4.runner.Partial

theorem SmartBuyConfig.PartialLevels.profileParams {cfg : SmartBuyConfig}
    (h : cfg.PartialLevels) (p : ExitProfile) : (cfg.exitV4.profileParams p).Partial := by
  cases p with
  | weak => exact h.weak
  | neutral => exact h.neutral
  | strong => exact h.strong
  | runner => exact h.runner

/-! ## Sells -/

/-- The five take-profit levels. -/
inductive TpLevel
  | tp1 | tp2 | tp3 | tp4 | tp5
  deriving DecidableEq, Repr

/-- What queues a partial sell: the market-cap ceiling or a take-profit level. -/
inductive SellLevel
  | ceiling
  | tp (n : TpLevel)
  deriving DecidableEq, Repr

inductive SellReason
  | momentumDecay (phase : Option PositionPhase) (ticks : ℕ) (recovery : ℤ)
  | timeKill
  | stopLoss (crash : Bool) (triggerPnl floor filtPnl rawPnl filtMcap rawMcap : ℚ)
      (confirmTicks : Option ℕ) (tickDrop : Option ℚ)
  | mcapCeiling (sellPct : ℚ)
  | trailingExit (drawdownPct : Option ℚ)
  | takeProfit (n : TpLevel) (pct : ℚ) (state : Option (ExitProfile × PositionPhase))
  | fillMcapAbort (adverse : Bool) (ratio bound scoreMcap fillMcap : ℚ)
  deriving DecidableEq, Repr

namespace SellReason

/-- The text starts with `SL CRASH`. -/
def isSlCrash : SellReason → Bool
  | stopLoss crash .. => crash
  | _ => false

/-- The level whose partial sell carries this reason. -/
def level : SellReason → Option SellLevel
  | mcapCeiling _ => some .ceiling
  | takeProfit n .. => some (.tp n)
  | _ => none

end SellReason

/-! ## Messages -/

/-- What a buy carries through its messages. -/
structure BuyOrder where
  mint : Address
  walletId : String
  amountSol : ℚ
  devAddress : Option Address
  earlyBuyers : List Address
  learningSnapshot : Option LearningTradeSnapshot
  deriving DecidableEq, Repr

def BuyOrder.key (o : BuyOrder) : PositionKey := ⟨o.mint, o.walletId⟩

inductive PositionMessage
  | updatePool (pool : Pool)
  | updateTokenBucket (pool : Pool)
  | applyLiveSnapshot (mint : Address) (live : LivePositionSnapshot)
  | setPaused (paused : Bool)
  | initiateBuy (pool : Pool) (amountSol : ℚ) (buyTier : Tier) (devAddress : Option Address)
      (earlyBuyers : List Address) (learningSnapshot : Option LearningTradeSnapshot)
  | clearPendingMint (mint : Address)
  | executeBuy (order : BuyOrder)
  | buyCompleted (order : BuyOrder) (latestPool : Pool) (result : Except BrokerError BuyReceipt)
  | executeSell (key : PositionKey) (percent : ℚ) (reason : SellReason)
  | abandonPosition (mint : Address) (walletId : Option String)
  | tick
  | applyExitMcapRefresh (mint : Address) (mcap : ℚ) (useJupiter : Bool)
  deriving DecidableEq

end Loggaper
