import Mathlib.Data.Rat.Defs
import Mathlib.Algebra.Order.Ring.Rat
import Mathlib.Data.Finset.Card
import Loggaper.Helper

/-!
# The risk gate

`StrategyController` decides whether a buy is allowed right now: open-position cap, daily trade
budget, daily loss cap and profit lock, pauses after a loss streak or a bad market regime. The
clock is an argument of each operation, and the end of a pause is a `u64` sum, which wraps.
-/

namespace Loggaper

inductive BuyDecision
  | allow
  | blockMaxOpen
  | blockDailyTrades
  | blockDailyLoss
  | blockProfitLock
  | blockLossStreak
  | blockRegime
  deriving DecidableEq, Repr

structure StrategyConfig where
  maxOpenPositions : UInt32 := 3
  maxTradesPerDay : UInt32 := 25
  /-- A negative number. -/
  maxDailyLossSol : ℚ := -2
  dailyProfitLockSol : ℚ := 4
  lossStreakLimit : UInt32 := 5
  lossStreakPauseSecs : ℕ := 1800
  marketRegimePause : Bool := true
  marketRegimeWindow : UInt32 := 10
  marketRegimeLossRatio : ℚ := 4 / 5
  marketRegimePauseSecs : ℕ := 1800

structure StrategyController where
  cfg : StrategyConfig
  dayUnix : ℕ
  dailyTrades : UInt32
  dailyPnlSol : ℚ
  lossStreak : UInt32
  pausedUntilUnix : ℕ
  /-- `true` is a win. -/
  recentOutcomes : List Bool
  lastBlockReason : Option String

def currentDay (now : ℕ) : ℕ := now - now % 86400

namespace StrategyController

def new (cfg : StrategyConfig) (now : ℕ) : StrategyController where
  cfg := cfg
  dayUnix := currentDay now
  dailyTrades := 0
  dailyPnlSol := 0
  lossStreak := 0
  pausedUntilUnix := 0
  recentOutcomes := []
  lastBlockReason := none

variable (c : StrategyController)

/-- Roll the daily counters when the UTC date changes. Pauses and the loss streak stay. -/
def rollDayIfNeeded (now : ℕ) : StrategyController :=
  let today := currentDay now
  if today ≠ c.dayUnix then { c with dayUnix := today, dailyTrades := 0, dailyPnlSol := 0 } else c

def canOpen (currentlyOpen : UInt32) (now : ℕ) : BuyDecision × StrategyController :=
  let c := c.rollDayIfNeeded now
  if currentlyOpen ≥ c.cfg.maxOpenPositions then
    (.blockMaxOpen, { c with lastBlockReason := some "max_open" })
  else if c.dailyTrades ≥ c.cfg.maxTradesPerDay then
    (.blockDailyTrades, { c with lastBlockReason := some "daily_trades" })
  else if c.dailyPnlSol ≤ c.cfg.maxDailyLossSol then
    (.blockDailyLoss, { c with lastBlockReason := some "daily_loss" })
  else if c.dailyPnlSol ≥ c.cfg.dailyProfitLockSol then
    (.blockProfitLock, { c with lastBlockReason := some "profit_lock" })
  else if now < c.pausedUntilUnix then
    (.blockLossStreak, { c with lastBlockReason := some "paused" })
  else
    (.allow, c)

/-- A position was opened: it counts against the day's budget at once. -/
def notePositionOpened (now : ℕ) : StrategyController :=
  let c := c.rollDayIfNeeded now
  { c with dailyTrades := c.dailyTrades + 1 }

/-- Keep the last `window` outcomes, and pause when too many of them are losses. -/
def noteRegime (win : Bool) (now : ℕ) : StrategyController :=
  let window := c.cfg.marketRegimeWindow.toNat
  let outcomes := c.recentOutcomes ++ [win]
  let outcomes := outcomes.drop (outcomes.length - window)
  let c := { c with recentOutcomes := outcomes }
  if c.cfg.marketRegimePause ∧ outcomes.length ≥ max window 1 then
    let losses : ℚ := outcomes.countP (! ·)
    let ratio := losses / outcomes.length
    if ratio ≥ c.cfg.marketRegimeLossRatio then
      { c with
        pausedUntilUnix := max (wrapU64 (now + c.cfg.marketRegimePauseSecs)) c.pausedUntilUnix }
    else c
  else c

/-- A position was closed with this realized result. -/
def notePositionClosed (pnlSol : ℚ) (now : ℕ) : StrategyController :=
  let c := c.rollDayIfNeeded now
  let c := { c with dailyPnlSol := c.dailyPnlSol + pnlSol }
  let win := decide (pnlSol > 0)
  let c :=
    if win then
      { c with lossStreak := 0 }
    else
      let c := { c with lossStreak := c.lossStreak + 1 }
      if c.lossStreak ≥ c.cfg.lossStreakLimit then
        { c with pausedUntilUnix := wrapU64 (now + c.cfg.lossStreakPauseSecs) }
      else c
  c.noteRegime win now

/-! ## The gate keeps the configuration -/

@[simp] theorem rollDayIfNeeded_cfg (now : ℕ) : (c.rollDayIfNeeded now).cfg = c.cfg := by
  simp only [rollDayIfNeeded]
  split_ifs <;> rfl

@[simp] theorem canOpen_cfg (n : UInt32) (now : ℕ) : (c.canOpen n now).2.cfg = c.cfg := by
  simp only [canOpen]
  split_ifs <;> simp

@[simp] theorem notePositionOpened_cfg (now : ℕ) : (c.notePositionOpened now).cfg = c.cfg := by
  simp [notePositionOpened]

@[simp] theorem noteRegime_cfg (win : Bool) (now : ℕ) : (c.noteRegime win now).cfg = c.cfg := by
  simp only [noteRegime]
  split_ifs <;> rfl

@[simp] theorem notePositionClosed_cfg (pnlSol : ℚ) (now : ℕ) :
    (c.notePositionClosed pnlSol now).cfg = c.cfg := by
  simp only [notePositionClosed, noteRegime_cfg]
  split_ifs <;> simp

/-- An allowed buy is below the cap. -/
theorem lt_cap_of_canOpen {n : UInt32} {now : ℕ} (h : (c.canOpen n now).1 = .allow) :
    n < c.cfg.maxOpenPositions := by
  simp only [canOpen, rollDayIfNeeded_cfg] at h
  by_contra hn
  rw [UInt32.not_lt] at hn
  rw [if_pos hn] at h
  exact absurd h (by simp)

end StrategyController

end Loggaper
