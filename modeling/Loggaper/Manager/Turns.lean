import Loggaper.Manager.System
import Loggaper.Manager.TickSpec

/-!
# What each turn does to the gates

One lemma for each message: what its turn makes of the rows' keys, the pending and the closed
mints, and which buys it spawns and confirms. Later proofs about buys cite these lemmas and unfold
no handler.
-/

namespace Loggaper

/-- What the gates of the manager read: keys of rows, pending and closed mints, strategy limits. -/
structure GateView where
  rows : Finset PositionKey
  pending : Finset Address
  closed : Finset Address
  limits : StrategyConfig

def PositionManagerActor.view (m : PositionManagerActor) : GateView :=
  ⟨KeyedMap.keySet m.positions, m.pendingMints, m.closedMints, m.strategy.cfg⟩

/-- Mints with a row. -/
def GateView.openMints (v : GateView) : Finset Address := v.rows.image (·.mint)

/-- A mint without rows is closed. -/
def GateView.finalize (v : GateView) (mint : Address) : GateView :=
  if mint ∈ v.openMints then v else { v with closed := insert mint v.closed }

/-- A task without orders. -/
def Task.isQuiet : Task → Bool
  | .sell .. | .exitMcapPoll _ | .liveSnapshot .. => true
  | _ => false

/-- An effect that is not a fill. -/
def Effect.isQuiet : Effect → Bool
  | .buyConfirmed .. => false
  | _ => true

namespace PositionManagerActor

variable (m : PositionManagerActor)

/-- The turn makes the view `v`, orders nothing and fills nothing. -/
structure Quiet (o : Outcome) (v : GateView) : Prop where
  view : o.actor.view = v
  spawned : ∀ t ∈ o.spawned, t.isQuiet = true
  effects : ∀ e ∈ o.effects, e.isQuiet = true

theorem quiet_idle : Quiet m.idle m.view := ⟨rfl, by simp [idle], by simp [idle]⟩

theorem anyPositionForMint_iff {mint : Address} :
    m.anyPositionForMint mint = true ↔ mint ∈ m.view.openMints := by
  simp [anyPositionForMint, GateView.openMints, view, AList.mem_keys]

theorem view_maybeFinalizeClosedMint (mint : Address) :
    (m.maybeFinalizeClosedMint mint).view = m.view.finalize mint := by
  unfold maybeFinalizeClosedMint GateView.finalize
  by_cases h : mint ∈ m.view.openMints
  · rw [if_pos (m.anyPositionForMint_iff.mpr h), if_pos h]
  · rw [if_neg fun hc => h (m.anyPositionForMint_iff.mp hc), if_neg h]
    rfl

@[simp] theorem view_updateRows (mint : Address) (f : Position → Position) :
    (m.updateRows mint f).view = m.view := by
  simp [updateRows, view]

theorem isQuiet_spawnLiveSnapshotRefresh (env : TurnEnv) (mint : Address) :
    ∀ t ∈ m.spawnLiveSnapshotRefresh env mint, t.isQuiet = true := by
  intro t ht
  unfold spawnLiveSnapshotRefresh at ht
  split_ifs at ht with h
  · dsimp only at ht
    split at ht
    · rw [List.mem_singleton] at ht
      subst ht
      rfl
    · cases ht
  · cases ht

/-! ## Pools, tape, ticks -/

theorem quiet_updatePool (pool : Pool) : Quiet (m.updatePool pool) m.view := by
  refine ⟨?_, by simp [updatePool], by simp [updatePool]⟩
  exact view_updateRows _ _ _

theorem quiet_updateTokenBucket (env : TurnEnv) (pool : Pool) :
    Quiet (m.updateTokenBucket env pool) m.view := by
  refine ⟨view_updateRows _ _ _, fun t ht => ?_, by simp [updateTokenBucket]⟩
  simp only [updateTokenBucket] at ht
  split_ifs at ht
  · exact isQuiet_spawnLiveSnapshotRefresh _ _ _ t ht
  · cases ht

theorem quiet_applyLiveSnapshot (env : TurnEnv) (mint : Address) (live : LivePositionSnapshot) :
    Quiet (m.applyLiveSnapshot env mint live) m.view :=
  ⟨view_updateRows _ _ _, by simp [applyLiveSnapshot], by simp [applyLiveSnapshot]⟩

theorem quiet_applyExitMcapRefresh (mint : Address) (mcap : ℚ) (useJupiter : Bool) :
    Quiet (m.applyExitMcapRefresh mint mcap useJupiter) m.view :=
  ⟨view_updateRows _ _ _, by simp [applyExitMcapRefresh], by simp [applyExitMcapRefresh]⟩

theorem quiet_setPaused (paused : Bool) : Quiet (m.setPaused paused) m.view :=
  ⟨rfl, by simp [setPaused], by simp [setPaused]⟩

theorem isQuiet_rowTasks (k : PositionKey) (r : TickResult) :
    ∀ t ∈ rowTasks k r, t.isQuiet = true := by
  intro t ht
  simp only [rowTasks, List.mem_append, Option.mem_toList, Option.map_eq_some_iff] at ht
  rcases ht with ⟨_, -, rfl⟩ | ⟨_, -, rfl⟩ <;> rfl

theorem view_refreshDueSnapshots (env : TurnEnv) : (m.refreshDueSnapshots env).1.view = m.view := by
  unfold refreshDueSnapshots
  split_ifs <;> rfl

theorem isQuiet_refreshDueSnapshots (env : TurnEnv) :
    ∀ t ∈ (m.refreshDueSnapshots env).2, t.isQuiet = true := by
  intro t ht
  unfold refreshDueSnapshots at ht
  split_ifs at ht
  · obtain ⟨mint, -, hmem⟩ := List.mem_flatMap.mp ht
    exact m.isQuiet_spawnLiveSnapshotRefresh env mint t hmem
  · cases ht

theorem quiet_tick (env : TurnEnv) : Quiet (m.tick env) m.view := by
  refine ⟨?_, fun t ht => ?_, by simp [tick, processPositions]⟩
  · rw [← m.view_refreshDueSnapshots env]
    simp [tick, processPositions, view]
  · simp only [tick, List.mem_append] at ht
    rcases ht with ht | ht
    · exact m.isQuiet_refreshDueSnapshots env t ht
    · simp only [processPositions, List.mem_flatMap] at ht
      obtain ⟨e, -, he⟩ := ht
      exact isQuiet_rowTasks _ _ t he

/-! ## Signals and orders -/

/-- An accepted signal makes its mint pending and orders one buy per enabled wallet. -/
theorem initiateBuy_accepted {env : TurnEnv} {pool : Pool} (amountSol : ℚ) (tier : Tier)
    (dev : Option Address) (early : List Address) (snap : Option LearningTradeSnapshot)
    (h : m.acceptsSignal env pool.mint = true) :
    (m.initiateBuy env pool amountSol tier dev early snap).actor.view =
        { m.view with pending := insert pool.mint m.view.pending } ∧
      (m.initiateBuy env pool amountSol tier dev early snap).spawned =
        [.fanOut (m.fanOutMessages pool amountSol tier dev early snap)] ∧
      (m.initiateBuy env pool amountSol tier dev early snap).effects = [] := by
  simp only [acceptsSignal, Bool.and_eq_true, Bool.not_eq_true', beq_iff_eq] at h
  obtain ⟨⟨⟨⟨hp, hd⟩, hq⟩, hs⟩, hw⟩ := h
  have hstrategy (c : CurveQuarantineCache) :
      (strategyGate { m with curveQuarantine := c } env) = m.strategyGate env := rfl
  simp only [initiateBuy, hstrategy]
  rw [if_neg (by simp [hp]), if_neg (by simp [hd]), if_neg (by simp [hq]), if_neg (by simp [hs]),
    if_neg (by simp [hw])]
  refine ⟨?_, rfl, rfl⟩
  simp [view, strategyGate]

/-- A signal that is not accepted changes no gate. -/
theorem initiateBuy_dropped {env : TurnEnv} {pool : Pool} {amountSol : ℚ} {tier : Tier}
    {dev : Option Address} {early : List Address} {snap : Option LearningTradeSnapshot}
    (h : m.acceptsSignal env pool.mint = false) :
    Quiet (m.initiateBuy env pool amountSol tier dev early snap) m.view := by
  have hstrategy (c : CurveQuarantineCache) :
      (strategyGate { m with curveQuarantine := c } env) = m.strategyGate env := rfl
  simp only [initiateBuy, hstrategy]
  split_ifs with hp hd hq hs hw
  · exact m.quiet_idle
  · exact m.quiet_idle
  · exact ⟨rfl, by simp [idle], by simp [idle]⟩
  · exact ⟨by simp [idle, view, strategyGate], by simp [idle], by simp [idle]⟩
  · exact ⟨by simp [idle, view, strategyGate], by simp [idle], by simp [idle]⟩
  · simp_all [acceptsSignal]

theorem view_clearPendingMint (mint : Address) :
    Quiet (m.clearPendingMint mint) { m.view with pending := m.view.pending.erase mint } :=
  ⟨rfl, by simp [clearPendingMint], by simp [clearPendingMint]⟩

/-- An order that goes to the broker finds no row under its key. -/
theorem executeBuy_issued {order : BuyOrder} (h : m.issuesBuy order = true) :
    order.key ∉ m.view.rows ∧ (m.executeBuy order).actor.view = m.view ∧
      ∃ pool, (m.executeBuy order).spawned = [.buy order pool] ∧
        (m.executeBuy order).effects = [.brokerBuy order.key order.amountSol] := by
  simp only [issuesBuy, Bool.and_eq_true, Bool.not_eq_true', decide_eq_true_eq] at h
  obtain ⟨⟨⟨hp, hw⟩, hk⟩, hpool⟩ := h
  obtain ⟨pool, hpool⟩ := Option.isSome_iff_exists.mp hpool
  have hw' : (m.wallets.get order.walletId).isNone = false := by
    rw [Option.isNone_eq_false_iff]; exact hw
  refine ⟨by simpa [view] using hk, ?_⟩
  have houtcome : m.executeBuy order =
      ⟨{ m with pendingWalletBuys := insert order.key m.pendingWalletBuys }, [.buy order pool],
        [.brokerBuy order.key order.amountSol]⟩ := by
    simp [executeBuy, hp, hw', hk, hpool]
  rw [houtcome]
  exact ⟨rfl, pool, rfl, rfl⟩

theorem executeBuy_dropped {order : BuyOrder} (h : m.issuesBuy order = false) :
    Quiet (m.executeBuy order) m.view := by
  simp only [executeBuy]
  split_ifs with hp hw hk
  · exact ⟨rfl, by simp [idle], by simp [idle]⟩
  · exact ⟨rfl, by simp [idle], by simp [idle]⟩
  · exact ⟨rfl, by simp [idle], by simp [idle]⟩
  · cases hpool : AList.lookup order.mint m.poolCache with
    | none => exact ⟨rfl, by simp [idle], by simp [idle]⟩
    | some pool => simp_all [issuesBuy]

/-! ## Results of buys -/

theorem quiet_applyBuyError (env : TurnEnv) (order : BuyOrder) (pool : Pool) (e : BrokerError) :
    Quiet (m.applyBuyResult env order pool (.error e))
      (if refusesMint e then m.view.finalize order.mint else m.view) := by
  refine ⟨?_, by simp [applyBuyResult, idle], by simp [applyBuyResult, idle]⟩
  have hany : (m.forgetWalletBuy order.key).anyPositionForMint order.mint =
    m.anyPositionForMint order.mint := rfl
  simp only [applyBuyResult, idle, applyBuyError, hany, GateView.finalize,
    ← m.anyPositionForMint_iff]
  by_cases hr : refusesMint e = true <;> by_cases ha : m.anyPositionForMint order.mint = true <;>
    simp [hr, ha, view, forgetWalletBuy]

theorem openPosition_view (env : TurnEnv) (order : BuyOrder) (pool : Pool) (r : BuyReceipt) :
    (m.openPosition env order pool r).actor.view =
      { m.view with rows := insert order.key m.view.rows } := by
  simp [openPosition, view]

theorem openPosition_spawned (env : TurnEnv) (order : BuyOrder) (pool : Pool) (r : BuyReceipt) :
    ∀ t ∈ (m.openPosition env order pool r).spawned, t.isQuiet = true := by
  intro t ht
  simp only [openPosition] at ht
  split_ifs at ht
  · exact m.isQuiet_spawnLiveSnapshotRefresh env _ t ht
  · cases ht

/-- What a confirmed fill does to the gates, apart from the fill itself. -/
structure Filled (key : PositionKey) (o : Outcome) (v : GateView) : Prop where
  view : o.actor.view = v
  spawned : ∀ t ∈ o.spawned, t.isQuiet = true
  effects : ∃ r rest, o.effects = .buyConfirmed key r :: rest ∧ ∀ e ∈ rest, e.isQuiet = true

/-- A fill that is sold again at once opens no row and closes no mint. -/
theorem filled_aborted {env : TurnEnv} {order : BuyOrder} {pool : Pool} {r : BuyReceipt}
    (h : m.abortsFill env order r = true) :
    Filled order.key (m.applyBuyResult env order pool (.ok r)) m.view := by
  rcases m.applyBuyResult_ok env order pool r with
    ⟨-, spike, sr, -, -, heq⟩ | ⟨hkeep, -⟩
  · rw [heq]
    refine ⟨by simp [abortFill, Outcome.after, view, forgetWalletBuy],
      by simp [abortFill, Outcome.after], ?_⟩
    exact ⟨r, _, rfl, by simp [abortFill, Effect.isQuiet]⟩
  · rw [h] at hkeep
    cases hkeep

/-- Any other fill opens its row, whatever is under its key. -/
theorem filled_opened {env : TurnEnv} {order : BuyOrder} {pool : Pool} {r : BuyReceipt}
    (h : m.abortsFill env order r = false) :
    Filled order.key (m.applyBuyResult env order pool (.ok r))
      { m.view with rows := insert order.key m.view.rows } := by
  rcases m.applyBuyResult_ok env order pool r with ⟨habort, -⟩ | ⟨-, sold, hsold, heq⟩
  · rw [h] at habort
    cases habort
  · rw [heq]
    refine ⟨openPosition_view _ env order pool r, openPosition_spawned _ env order pool r,
      r, sold ++ [.positionOpen order.key], rfl, fun e he => ?_⟩
    rcases List.mem_append.mp he with he | he
    · rw [hsold e he]
      rfl
    · rw [List.mem_singleton] at he
      subst he
      rfl

/-! ## Sells -/

theorem recordClose_view (env : TurnEnv) (key : PositionKey) (reason : SellReason) (pos : Position)
    (total : ℚ) : (m.recordClose env key reason pos total).actor.view = m.view := by
  simp [recordClose, view]

theorem recordClose_quiet (env : TurnEnv) (key : PositionKey) (reason : SellReason)
    (pos : Position) (total : ℚ) :
    ∀ e ∈ (m.recordClose env key reason pos total).effects, e.isQuiet = true := by
  intro e he
  simp only [recordClose, List.mem_cons, List.mem_append, List.not_mem_nil, or_false] at he
  rcases he with ((rfl | he) | he) | rfl
  · rfl
  · cases hdev : pos.devAddress with
    | none => simp [hdev] at he
    | some dev =>
      simp only [hdev] at he
      split_ifs at he
      · rw [List.mem_singleton] at he
        subst he
        rfl
      · cases he
  · split_ifs at he
    · rw [List.mem_singleton] at he
      subst he
      rfl
    · cases he
  · rfl

/-- A full sell that the broker takes erases its row and finalizes the mint. -/
theorem quiet_executeSell_closes {env : TurnEnv} {key : PositionKey} {percent : ℚ}
    (reason : SellReason) (h : m.closesRow env key percent = true) :
    key ∈ m.view.rows ∧ Quiet (m.executeSell env key percent reason)
      (GateView.finalize { m.view with rows := m.view.rows.erase key } key.mint) := by
  simp only [closesRow, findsRow, Bool.and_eq_true, decide_eq_true_eq] at h
  obtain ⟨⟨⟨hwallet, hrow⟩, hsell⟩, hpct⟩ := h
  obtain ⟨w, hwallet⟩ := Option.isSome_iff_exists.mp hwallet
  obtain ⟨pos, hpos⟩ := KeyedMap.mem_iff_lookup.mp hrow
  refine ⟨by simpa [view] using hrow, ?_⟩
  cases hs : env.sell with
  | error e => simp [hs, Except.toBool] at hsell
  | ok r =>
    simp only [executeSell, hwallet, hpos, hs, not_lt.mpr hpct, if_false]
    refine ⟨?_, by simp [Outcome.after, recordClose], fun e he => ?_⟩
    · simp only [Outcome.after, recordClose_view, view_maybeFinalizeClosedMint]
      simp [view]
    · simp only [Outcome.after, List.cons_append, List.nil_append, List.mem_cons] at he
      rcases he with rfl | he
      · rfl
      · exact recordClose_quiet _ _ _ _ _ _ e he

/-- Any other sell keeps the rows. -/
theorem quiet_executeSell_keeps {env : TurnEnv} {key : PositionKey} {percent : ℚ}
    {reason : SellReason} (h : m.closesRow env key percent = false) :
    Quiet (m.executeSell env key percent reason) m.view := by
  unfold executeSell
  cases hwallet : m.wallets.get key.walletId with
  | none => exact m.quiet_idle
  | some w =>
    cases hpos : AList.lookup key m.positions with
    | none => exact m.quiet_idle
    | some pos =>
      have hrow : key ∈ m.positions := KeyedMap.mem_iff_lookup.mpr ⟨pos, hpos⟩
      have hinsert (p : Position) :
          PositionManagerActor.view { m with positions := m.positions.insert key p } = m.view := by
        simp [view, hrow]
      cases hs : env.sell with
      | error e => exact ⟨hinsert _, by simp, by simp [Effect.isQuiet]⟩
      | ok r =>
        dsimp only
        split_ifs with hpct
        · exact ⟨hinsert _, by simp, by simp [Effect.isQuiet]⟩
        · simp [closesRow, findsRow, hwallet, hrow, hs, Except.toBool, not_lt.mp hpct] at h

theorem mem_abandonedKeys {mint : Address} {walletId : Option String} {k : PositionKey} :
    k ∈ m.abandonedKeys mint walletId ↔
      k ∈ m.positions ∧ k.mint = mint ∧ ∀ w ∈ walletId, w = k.walletId := by
  cases walletId <;> simp [abandonedKeys, AList.mem_keys]

theorem quiet_abandonPosition (mint : Address) (walletId : Option String) :
    Quiet (m.abandonPosition mint walletId)
      (GateView.finalize
        { m.view with rows := m.view.rows \ (m.abandonedKeys mint walletId).toFinset } mint) := by
  refine ⟨?_, by simp [abandonPosition], ?_⟩
  · simp only [abandonPosition, view_maybeFinalizeClosedMint]
    simp [view]
  · intro e he
    simp only [abandonPosition, List.mem_map] at he
    obtain ⟨k, -, rfl⟩ := he
    rfl

/-! ## What a turn spawns -/

/-- Apart from quiet tasks a turn spawns the buy of its order, or the fan-out of its signal. -/
theorem spawned_cases {env : TurnEnv} {msg : PositionMessage} {task : Task}
    (h : task ∈ (m.handle env msg).spawned) :
    task.isQuiet = true ∨
      (∃ order pool, msg = .executeBuy order ∧ task = .buy order pool) ∨
      ∃ pool amountSol tier dev early snap, msg = .initiateBuy pool amountSol tier dev early snap ∧
        task = .fanOut (m.fanOutMessages pool amountSol tier dev early snap) := by
  cases msg with
  | initiateBuy pool amountSol tier dev early snap =>
    cases haccept : m.acceptsSignal env pool.mint with
    | true =>
      obtain ⟨-, hspawned, -⟩ := m.initiateBuy_accepted amountSol tier dev early snap haccept
      rw [handle, hspawned, List.mem_singleton] at h
      exact .inr (.inr ⟨pool, amountSol, tier, dev, early, snap, rfl, h⟩)
    | false => exact .inl ((m.initiateBuy_dropped haccept).spawned task h)
  | executeBuy order =>
    cases hissue : m.issuesBuy order with
    | true =>
      obtain ⟨-, -, pool, hspawned, -⟩ := m.executeBuy_issued hissue
      rw [handle, hspawned, List.mem_singleton] at h
      exact .inr (.inl ⟨order, pool, rfl, h⟩)
    | false => exact .inl ((m.executeBuy_dropped hissue).spawned task h)
  | buyCompleted order pool result =>
    cases result with
    | error e => exact .inl ((m.quiet_applyBuyError env order pool e).spawned task h)
    | ok r =>
      cases haborts : m.abortsFill env order r with
      | true => exact .inl ((m.filled_aborted haborts).spawned task h)
      | false => exact .inl ((m.filled_opened haborts).spawned task h)
  | executeSell key percent reason =>
    cases hcloses : m.closesRow env key percent with
    | true => exact .inl ((m.quiet_executeSell_closes reason hcloses).2.spawned task h)
    | false => exact .inl ((m.quiet_executeSell_keeps hcloses).spawned task h)
  | updateTokenBucket pool => exact .inl ((m.quiet_updateTokenBucket env pool).spawned task h)
  | abandonPosition mint walletId =>
    exact .inl ((m.quiet_abandonPosition mint walletId).spawned task h)
  | tick => exact .inl ((m.quiet_tick env).spawned task h)
  | updatePool pool => exact .inl ((m.quiet_updatePool pool).spawned task h)
  | applyLiveSnapshot mint live =>
    exact .inl ((m.quiet_applyLiveSnapshot env mint live).spawned task h)
  | setPaused paused => exact .inl ((m.quiet_setPaused paused).spawned task h)
  | clearPendingMint mint => exact .inl ((m.view_clearPendingMint mint).spawned task h)
  | applyExitMcapRefresh mint mcap useJupiter =>
    exact .inl ((m.quiet_applyExitMcapRefresh mint mcap useJupiter).spawned task h)

/-! ## The strategy limits -/

@[simp] theorem limits_finalize (v : GateView) (mint : Address) :
    (v.finalize mint).limits = v.limits := by
  unfold GateView.finalize
  split_ifs <;> rfl

/-- No turn changes the strategy limits. -/
theorem limits_turn (env : TurnEnv) (msg : PositionMessage) :
    (m.handle env msg).actor.view.limits = m.view.limits := by
  cases msg with
  | updatePool pool => rw [handle, (m.quiet_updatePool pool).view]
  | updateTokenBucket pool => rw [handle, (m.quiet_updateTokenBucket env pool).view]
  | applyLiveSnapshot mint live => rw [handle, (m.quiet_applyLiveSnapshot env mint live).view]
  | setPaused paused => rw [handle, (m.quiet_setPaused paused).view]
  | tick => rw [handle, (m.quiet_tick env).view]
  | applyExitMcapRefresh mint mcap useJupiter =>
    rw [handle, (m.quiet_applyExitMcapRefresh mint mcap useJupiter).view]
  | clearPendingMint mint => rw [handle, (m.view_clearPendingMint mint).view]
  | initiateBuy pool amountSol tier dev early snap =>
    rw [handle]
    cases h : m.acceptsSignal env pool.mint with
    | true => rw [(m.initiateBuy_accepted amountSol tier dev early snap h).1]
    | false => rw [(m.initiateBuy_dropped h).view]
  | executeBuy order =>
    rw [handle]
    cases h : m.issuesBuy order with
    | true => rw [(m.executeBuy_issued h).2.1]
    | false => rw [(m.executeBuy_dropped h).view]
  | buyCompleted order pool result =>
    rw [handle]
    cases result with
    | error e =>
      rw [(m.quiet_applyBuyError env order pool e).view]
      split_ifs <;> simp
    | ok receipt =>
      cases h : m.abortsFill env order receipt with
      | true => rw [(m.filled_aborted h).view]
      | false => rw [(m.filled_opened h).view]
  | executeSell key percent reason =>
    rw [handle]
    cases h : m.closesRow env key percent with
    | true =>
      rw [(m.quiet_executeSell_closes reason h).2.view]
      simp
    | false => rw [(m.quiet_executeSell_keeps h).view]
  | abandonPosition mint walletId =>
    rw [handle, (m.quiet_abandonPosition mint walletId).view]
    simp

end PositionManagerActor

end Loggaper
