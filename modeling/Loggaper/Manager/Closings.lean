import Loggaper.Manager.Rows
import Loggaper.Manager.TradeBudget

/-!
# What the rest of the program hears of a close

A confirmed sell that ends a fill of a wallet goes to the strategy controller, to the developer's
record and to the records of the early buyers. The source does this for each wallet's row, on its
own.

- `Closing`: one fill that a confirmed sell ends, and what is told about it.
- `tells_handle`: every turn tells about the fill that it ends, and about nothing else.
-/

namespace Loggaper

/-! ## Closings -/

/-- A fill that a confirmed sell ends, and who hears of it. -/
structure Closing where
  key : PositionKey
  pnlSol : ℚ
  pnlPct : ℚ
  /-- The developer, when one is known and a ranking is kept. -/
  dev : Option Address
  /-- The early buyers, when a registry of them is kept. -/
  buyers : List Address

/-- The developer of the outcome. -/
def Closing.devNote (c : Closing) : List Effect :=
  (c.dev.map fun dev => .noteOutcome c.key dev c.pnlPct).toList

/-- The early buyers of the outcome. -/
def Closing.buyersNote (c : Closing) : List Effect :=
  if c.buyers ≠ [] then [.noteTradeOutcome c.key c.buyers c.pnlPct] else []

/-- What is told about a closing. -/
def Closing.notes (c : Closing) : List Effect :=
  .notePositionClosed c.key c.pnlSol :: c.devNote ++ c.buyersNote

def Closing.isLoss (c : Closing) : Bool := ¬ c.pnlSol > 0

/-- Told to the controller or to a registry. -/
def Effect.isNote : Effect → Bool
  | .notePositionClosed .. | .noteOutcome .. | .noteTradeOutcome .. => true
  | _ => false

/-- What a list of effects tells. -/
def told (l : List Effect) : List Effect := l.filter Effect.isNote

@[simp] theorem told_append (l₁ l₂ : List Effect) : told (l₁ ++ l₂) = told l₁ ++ told l₂ := by
  simp [told]

theorem told_eq_nil {l : List Effect} (h : ∀ e ∈ l, e.isNote = false) : told l = [] := by
  rw [told, List.filter_eq_nil_iff]
  intro e he
  simp [h e he]

theorem told_notes (c : Closing) : told c.notes = c.notes := by
  rw [told, List.filter_eq_self]
  intro e he
  simp only [Closing.notes, Closing.devNote, Closing.buyersNote, List.cons_append, List.mem_cons,
    List.mem_append, Option.mem_toList, Option.map_eq_some_iff] at he
  rcases he with rfl | ⟨dev, -, rfl⟩ | he
  · rfl
  · rfl
  · split_ifs at he
    · rw [List.mem_singleton] at he
      subst he
      rfl
    · cases he

theorem key_of_mem_notes {c : Closing} {e : Effect} (h : e ∈ c.notes) : e.key = c.key := by
  simp only [Closing.notes, Closing.devNote, Closing.buyersNote, List.cons_append, List.mem_cons,
    List.mem_append, Option.mem_toList, Option.map_eq_some_iff] at h
  rcases h with rfl | ⟨dev, -, rfl⟩ | h
  · rfl
  · rfl
  · split_ifs at h
    · rw [List.mem_singleton] at h
      subst h
      rfl
    · cases h

/-! ## The controller's record of losses -/

/-- The loss streak, and the window of the last outcomes. -/
structure LossRecord where
  streak : UInt32
  window : List Bool
  deriving DecidableEq

/-- One more outcome. -/
def LossRecord.note (cfg : StrategyConfig) (r : LossRecord) (win : Bool) : LossRecord :=
  let outcomes := r.window ++ [win]
  ⟨if win then 0 else r.streak + 1,
    outcomes.drop (outcomes.length - cfg.marketRegimeWindow.toNat)⟩

namespace StrategyController

variable (c : StrategyController)

def lossRecord : LossRecord := ⟨c.lossStreak, c.recentOutcomes⟩

@[simp] theorem lossRecord_rollDayIfNeeded (now : ℕ) :
    (c.rollDayIfNeeded now).lossRecord = c.lossRecord := by
  simp only [rollDayIfNeeded]
  split_ifs <;> rfl

@[simp] theorem lossRecord_canOpen (n : UInt32) (now : ℕ) :
    (c.canOpen n now).2.lossRecord = c.lossRecord := by
  have hroll := c.lossRecord_rollDayIfNeeded now
  simp only [canOpen]
  split_ifs <;> exact hroll

@[simp] theorem lossRecord_notePositionOpened (now : ℕ) :
    (c.notePositionOpened now).lossRecord = c.lossRecord :=
  c.lossRecord_rollDayIfNeeded now

theorem lossRecord_noteRegime (win : Bool) (now : ℕ) :
    (c.noteRegime win now).lossRecord =
      ⟨c.lossStreak, (c.recentOutcomes ++ [win]).drop
        ((c.recentOutcomes ++ [win]).length - c.cfg.marketRegimeWindow.toNat)⟩ := by
  simp only [noteRegime]
  split_ifs <;> rfl

/-- **A close is one outcome.** -/
theorem lossRecord_notePositionClosed (pnlSol : ℚ) (now : ℕ) :
    (c.notePositionClosed pnlSol now).lossRecord = c.lossRecord.note c.cfg (pnlSol > 0) := by
  have hroll : (c.rollDayIfNeeded now).lossRecord = c.lossRecord := c.lossRecord_rollDayIfNeeded now
  have hcfg : (c.rollDayIfNeeded now).cfg = c.cfg := c.rollDayIfNeeded_cfg now
  obtain ⟨hstreak, hwindow⟩ := LossRecord.mk.inj hroll
  simp only [notePositionClosed, lossRecord_noteRegime, LossRecord.note, ← hcfg]
  by_cases hwin : pnlSol > 0
  · simp [hwin, lossRecord, hwindow]
  · simp only [hwin, decide_false, Bool.false_eq_true, if_false, lossRecord, ← hwindow, ← hstreak]
    split_ifs <;> rfl

end StrategyController

/-! ## What a turn tells -/

namespace PositionManagerActor

variable (m : PositionManagerActor) (env : TurnEnv)

/-- The closing of a row by a full sell with this receipt. -/
def rowClosing (key : PositionKey) (pos : Position) (r : SellReceipt) : Closing where
  key := key
  pnlSol := closedPnlSol pos (pos.totalReturned + r.solReceivedActual)
  pnlPct := closedPnlPctSol pos (pos.totalReturned + r.solReceivedActual)
  dev := if m.hasDevRanker then pos.devAddress else none
  buyers := if m.hasSmartMoney then pos.earlyBuyers else []

/-- The closing of a fill that is sold again at once: no developer and no buyer hears of it. -/
def abortClosing (order : BuyOrder) (r : SellReceipt) : Closing where
  key := order.key
  pnlSol := r.solReceivedActual - order.amountSol
  pnlPct := if order.amountSol > 0 then (r.solReceivedActual / order.amountSol - 1) * 100 else 0
  dev := none
  buyers := []

/-- The fill that the turn of a message ends by a confirmed sell. -/
def closing : PositionMessage → Option Closing
  | .executeSell key percent _ =>
    match AList.lookup key m.positions, env.sell with
    | some pos, .ok r =>
      if m.closesRow env key percent then some (m.rowClosing key pos r) else none
    | _, _ => none
  | .buyCompleted order _ (.ok receipt) =>
    match env.sell with
    | .ok r => if m.abortsFill env order receipt then some (abortClosing order r) else none
    | .error _ => none
  | _ => none

/-- An outcome tells about this closing, and the controller counts it. -/
structure Tells (o : Outcome) (c : Option Closing) : Prop where
  notes : told o.effects = c.elim [] Closing.notes
  record : o.actor.strategy.lossRecord =
    c.elim m.strategy.lossRecord fun c =>
      m.strategy.lossRecord.note m.strategy.cfg (c.pnlSol > 0)

variable {m env}

theorem Tells.of_silent {o : Outcome} (hnotes : ∀ e ∈ o.effects, e.isNote = false)
    (hrecord : o.actor.strategy.lossRecord = m.strategy.lossRecord) : m.Tells o none :=
  ⟨told_eq_nil hnotes, hrecord⟩

theorem tells_initiateBuy (pool : Pool) (amountSol : ℚ) (tier : Tier) (dev : Option Address)
    (early : List Address) (snap : Option LearningTradeSnapshot) :
    m.Tells (m.initiateBuy env pool amountSol tier dev early snap) none := by
  have hgate : (m.strategyGate env).2.lossRecord = m.strategy.lossRecord :=
    m.strategy.lossRecord_canOpen _ _
  have hstrategy (c : CurveQuarantineCache) :
      (strategyGate { m with curveQuarantine := c } env) = m.strategyGate env := rfl
  simp only [initiateBuy, hstrategy]
  split_ifs
  · exact .of_silent (by simp [idle]) rfl
  · exact .of_silent (by simp [idle]) rfl
  · exact .of_silent (by simp [idle]) rfl
  · exact .of_silent (by simp [idle]) hgate
  · exact .of_silent (by simp [idle]) hgate
  · refine .of_silent (by simp) ?_
    rw [StrategyController.lossRecord_notePositionOpened, hgate]

theorem tells_executeBuy (order : BuyOrder) : m.Tells (m.executeBuy order) none := by
  simp only [executeBuy]
  split_ifs
  · exact .of_silent (by simp [idle]) rfl
  · exact .of_silent (by simp [idle]) rfl
  · exact .of_silent (by simp [idle]) rfl
  · cases AList.lookup order.mint m.poolCache with
    | none => exact .of_silent (by simp [idle]) rfl
    | some pool => exact .of_silent (by simp [Effect.isNote]) rfl

variable (m env) in
theorem effects_recordClose (key : PositionKey) (reason : SellReason) (pos : Position)
    (r : SellReceipt) :
    ∃ entry, (m.recordClose env key reason pos (pos.totalReturned + r.solReceivedActual)).effects =
      (m.rowClosing key pos r).notes ++ [.saveBotTrade key entry] := by
  have hdev : (m.rowClosing key pos r).devNote = pos.devAddress.elim [] fun dev =>
      if m.hasDevRanker then [.noteOutcome key dev (m.rowClosing key pos r).pnlPct] else [] := by
    cases hpos : pos.devAddress <;> cases hranker : m.hasDevRanker <;>
      simp [Closing.devNote, rowClosing, hpos, hranker]
  have hbuyers : (m.rowClosing key pos r).buyersNote =
      if pos.earlyBuyers ≠ [] ∧ m.hasSmartMoney then
        [.noteTradeOutcome key pos.earlyBuyers (m.rowClosing key pos r).pnlPct] else [] := by
    cases hsmart : m.hasSmartMoney <;> simp [Closing.buyersNote, rowClosing, hsmart]
  rw [Closing.notes, hdev, hbuyers, recordClose]
  cases pos.devAddress with
  | none => exact ⟨_, rfl⟩
  | some dev => exact ⟨_, rfl⟩

variable (m env) in
/-- A closed row tells the controller, the developer and the early buyers. -/
theorem tells_recordClose (key : PositionKey) (reason : SellReason) (pos : Position)
    (r : SellReceipt) (qty : ℚ) (close : Bool) (result : Except BrokerError SellReceipt) :
    m.Tells ((m.recordClose env key reason pos (pos.totalReturned + r.solReceivedActual)).after
      [.brokerSell key qty close result]) (some (m.rowClosing key pos r)) := by
  constructor
  · obtain ⟨entry, heffects⟩ := m.effects_recordClose env key reason pos r
    simp only [Outcome.after, heffects, told_append, told_notes]
    simp [told, Effect.isNote]
  · exact m.strategy.lossRecord_notePositionClosed _ _

theorem tells_executeSell (key : PositionKey) (percent : ℚ) (reason : SellReason) :
    m.Tells (m.executeSell env key percent reason)
      (m.closing env (.executeSell key percent reason)) := by
  cases hfind : m.findsRow key with
  | false =>
    have hnone : m.closing env (.executeSell key percent reason) = none := by
      simp only [closing, closesRow, hfind, Bool.false_and, Bool.false_eq_true, if_false]
      split <;> rfl
    rw [executeSell_idle hfind, hnone]
    exact .of_silent (by simp [idle]) rfl
  | true =>
    obtain ⟨pos, hpos⟩ := exists_row_of_findsRow hfind
    cases hsell : env.sell with
    | error e =>
      rw [executeSell_error hfind hpos hsell, closing, hpos, hsell]
      exact .of_silent (by simp [Effect.isNote]) rfl
    | ok r =>
      by_cases hpct : percent < 100
      · rw [executeSell_part hfind hpos hsell hpct, closing, hpos, hsell]
        simp only [closesRow, not_le.mpr hpct, decide_false, Bool.and_false, Bool.false_eq_true,
          if_false]
        exact .of_silent (by simp [Effect.isNote]) rfl
      · rw [not_lt] at hpct
        rw [executeSell_full hfind hpos hsell hpct, closing, hpos, hsell]
        simp only [closesRow, hfind, hsell, Except.toBool, hpct, decide_true, Bool.and_self,
          if_true]
        -- the mint may be finalized in between, which nobody hears of
        set m' := maybeFinalizeClosedMint { m with positions := m.positions.erase key } key.mint
        have hstrategy : m'.strategy = m.strategy := strategy_maybeFinalizeClosedMint _
        have hclosing : m'.rowClosing key pos r = m.rowClosing key pos r := by
          simp only [m', maybeFinalizeClosedMint]
          split_ifs <;> rfl
        have htells := m'.tells_recordClose env key reason pos r (pos.sellQty percent) true (.ok r)
        rw [hclosing] at htells
        exact ⟨htells.notes, by rw [htells.record, hstrategy]⟩

theorem tells_openPosition (order : BuyOrder) (pool : Pool) (r : BuyReceipt)
    {effects : List Effect} (heffects : ∀ e ∈ effects, e.isNote = false) :
    m.Tells (((m.forgetWalletBuy order.key).openPosition env order pool r).after effects) none := by
  refine .of_silent (fun e he => ?_) rfl
  rcases List.mem_append.mp he with he | he
  · exact heffects e he
  · rw [openPosition, List.mem_singleton] at he
    subst he
    rfl

theorem tells_applyBuyResult (order : BuyOrder) (pool : Pool)
    (result : Except BrokerError BuyReceipt) :
    m.Tells (m.applyBuyResult env order pool result)
      (m.closing env (.buyCompleted order pool result)) := by
  cases result with
  | error e =>
    refine .of_silent (by simp [applyBuyResult, idle]) ?_
    simp only [applyBuyResult, applyBuyError, idle]
    split_ifs <;> rfl
  | ok receipt =>
    rcases m.applyBuyResult_ok env order pool receipt with
      ⟨habort, spike, r, hsell, -, heq⟩ | ⟨hkeep, sold, hsold, heq⟩
    · rw [heq]
      simp only [hsell, closing, habort, if_true]
      constructor
      · rfl
      · exact m.strategy.lossRecord_notePositionClosed _ _
    · have hnone : m.closing env (.buyCompleted order pool (.ok receipt)) = none := by
        simp only [closing, hkeep, Bool.false_eq_true, if_false]
        split <;> rfl
      rw [heq, hnone]
      refine tells_openPosition order pool receipt fun e he => ?_
      rcases List.mem_cons.mp he with rfl | he
      · rfl
      · rw [hsold e he]
        rfl

variable (m env) in
/-- **What a turn tells.** Every turn tells about the fill that it ends, and about nothing else. -/
theorem tells_handle (msg : PositionMessage) :
    m.Tells (m.handle env msg) (m.closing env msg) := by
  cases msg with
  | initiateBuy pool amountSol tier dev early snap =>
    exact tells_initiateBuy pool amountSol tier dev early snap
  | executeBuy order => exact tells_executeBuy order
  | executeSell key percent reason => exact tells_executeSell key percent reason
  | buyCompleted order pool result => exact tells_applyBuyResult order pool result
  | abandonPosition mint walletId =>
    refine .of_silent (fun e he => ?_) ?_
    · obtain ⟨k, -, rfl⟩ := List.mem_map.mp he
      rfl
    · exact congrArg StrategyController.lossRecord (strategy_maybeFinalizeClosedMint _)
  | tick =>
    refine .of_silent (by simp [handle, tick, processPositions]) ?_
    exact congrArg StrategyController.lossRecord strategy_refreshDueSnapshots
  | updatePool pool => exact .of_silent (by simp [handle, updatePool]) rfl
  | updateTokenBucket pool => exact .of_silent (by simp [handle, updateTokenBucket]) rfl
  | applyLiveSnapshot mint live => exact .of_silent (by simp [handle, applyLiveSnapshot]) rfl
  | setPaused paused => exact .of_silent (by simp [handle, setPaused]) rfl
  | clearPendingMint mint => exact .of_silent (by simp [handle, clearPendingMint]) rfl
  | applyExitMcapRefresh mint mcap useJupiter =>
    exact .of_silent (by simp [handle, applyExitMcapRefresh]) rfl

end PositionManagerActor

end Loggaper
