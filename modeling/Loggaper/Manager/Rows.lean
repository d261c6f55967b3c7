import Loggaper.Manager.System
import Loggaper.Manager.TickSpec

/-!
# What one turn can do to one row

Between its fill and its end a row meets every message, of its own key and of the others. A turn
keeps it, queues a sell for it, takes a failed, partial or full sell of it, or lets it go. This is
said once (`rowTurn_handle`), with the sells that the turn queues and the effects that it has on
the row's key, and every invariant about rows is derived from it.
-/

namespace Loggaper

/-! ## Sells and effects of one key -/

/-- Sells of a key that are scheduled and not executed. -/
def queuedSells (key : PositionKey) : InFlight (ℚ × SellReason) where
  ofMessage
    | .executeSell k percent reason => if k = key then {(percent, reason)} else 0
    | _ => 0
  external msg h := by cases msg <;> first | rfl | cases h
  bought _ _ _ _ := rfl
  refreshed _ _ _ := rfl
  live _ _ := rfl

def Effect.key : Effect → PositionKey
  | .brokerBuy key _ => key
  | .buyConfirmed key _ => key
  | .positionOpen key => key
  | .brokerSell key .. => key
  | .notePositionClosed key _ => key
  | .saveBotTrade key _ => key
  | .noteOutcome key .. => key
  | .noteTradeOutcome key .. => key
  | .forgetPosition key => key

/-- A sell, or a record of a close. -/
def Effect.isSale : Effect → Bool
  | .brokerSell .. | .notePositionClosed .. | .saveBotTrade .. => true
  | _ => false

/-- The sells and close records of one key. -/
def salesOf (key : PositionKey) (log : List Effect) : List Effect :=
  log.filter fun e => e.isSale && e.key == key

@[simp] theorem salesOf_nil (key : PositionKey) : salesOf key [] = [] := rfl

@[simp] theorem salesOf_append (key : PositionKey) (l₁ l₂ : List Effect) :
    salesOf key (l₁ ++ l₂) = salesOf key l₁ ++ salesOf key l₂ := by
  simp [salesOf]

@[simp] theorem salesOf_brokerSell (key : PositionKey) (qty : ℚ) (close : Bool)
    (result : Except BrokerError SellReceipt) (l : List Effect) :
    salesOf key (.brokerSell key qty close result :: l) =
      .brokerSell key qty close result :: salesOf key l := by
  simp [salesOf, Effect.isSale, Effect.key]

@[simp] theorem salesOf_notePositionClosed (key : PositionKey) (pnl : ℚ) (l : List Effect) :
    salesOf key (.notePositionClosed key pnl :: l) =
      .notePositionClosed key pnl :: salesOf key l := by
  simp [salesOf, Effect.isSale, Effect.key]

@[simp] theorem salesOf_saveBotTrade (key : PositionKey) (entry : BotTradeEntry) (l : List Effect) :
    salesOf key (.saveBotTrade key entry :: l) = .saveBotTrade key entry :: salesOf key l := by
  simp [salesOf, Effect.isSale, Effect.key]

theorem salesOf_eq_nil {key : PositionKey} {l : List Effect}
    (h : ∀ e ∈ l, e.isSale = false ∨ e.key ≠ key) : salesOf key l = [] := by
  rw [salesOf, List.filter_eq_nil_iff]
  intro e he
  rcases h e he with h | h <;> simp [h]

/-! ## The turns of a row -/

/-- What the row holds, has returned and has cost is the same. -/
structure SameHolding (p q : Position) : Prop where
  initialHoldings : q.initialHoldings = p.initialHoldings
  holdings : q.holdings = p.holdings
  totalReturned : q.totalReturned = p.totalReturned
  spentSol : q.spentSol = p.spentSol

theorem SameHolding.of_books {p q : Position} (h : q.books = p.books) : SameHolding p q :=
  ⟨congrArg Books.initialHoldings h, congrArg Books.holdings h, congrArg Books.totalReturned h,
    congrArg Books.spentSol h⟩

/-- What a sell of this percent asks the broker for. -/
def Position.sellQty (pos : Position) (percent : ℚ) : ℚ := pos.holdings.toFloat * (percent / 100)

open PositionManagerActor in
/-- **One turn of a row.** The row before and after the turn, the sells of its key that the turn
queues, and the sells and close records of its key that the turn has. -/
inductive RowTurn (cfg : SmartBuyConfig) (env : TurnEnv) (key : PositionKey) :
    PositionMessage → Option Position → Option Position → Multiset (ℚ × SellReason) →
    List Effect → Prop
  | absent {msg : PositionMessage} : RowTurn cfg env key msg none none 0 []
  | kept {msg : PositionMessage} {p q : Position} :
      SameHolding p q → q.flags = p.flags → RowTurn cfg env key msg (some p) (some q) 0 []
  | queued {p q : Position} {a : SellAction} :
      p.isClosing = false → TickSpec cfg p q (some a) →
      RowTurn cfg env key .tick (some p) (some q) {(a.percent, a.reason)} []
  | failed {p : Position} {percent : ℚ} {reason : SellReason} {e : BrokerError} :
      env.sell = .error e →
      RowTurn cfg env key (.executeSell key percent reason) (some p)
        (some (rowAfterSellError e percent p)) 0
        [.brokerSell key (p.sellQty percent) (percent ≥ 100) (.error e)]
  | sold {p : Position} {percent : ℚ} {reason : SellReason} {r : SellReceipt} :
      env.sell = .ok r → percent < 100 →
      RowTurn cfg env key (.executeSell key percent reason) (some p)
        (some (rowAfterPartialSell r (p.sellQty percent) p)) 0
        [.brokerSell key (p.sellQty percent) false (.ok r)]
  | closed {p : Position} {percent : ℚ} {reason : SellReason} {r : SellReceipt}
      {entry : BotTradeEntry} :
      env.sell = .ok r → 100 ≤ percent →
      RowTurn cfg env key (.executeSell key percent reason) (some p) none 0
        [.brokerSell key (p.sellQty percent) true (.ok r),
          .notePositionClosed key (closedPnlSol p (p.totalReturned + r.solReceivedActual)),
          .saveBotTrade key entry]
  | abandoned {p : Position} {mint : Address} {walletId : Option String} :
      RowTurn cfg env key (.abandonPosition mint walletId) (some p) none 0 []

/-- A turn that keeps the row of the key. -/
theorem RowTurn.of_kept {m : PositionManagerActor} {env : TurnEnv} {key : PositionKey}
    {msg : PositionMessage} {o : Outcome}
    (hrow : ∃ f : Position → Position,
      AList.lookup key o.actor.positions = (AList.lookup key m.positions).map f ∧
        ∀ p, SameHolding p (f p) ∧ (f p).flags = p.flags)
    (hspawned : (queuedSells key).ofTasks o.spawned = 0) (heffects : salesOf key o.effects = []) :
    RowTurn m.config env key msg (AList.lookup key m.positions)
      (AList.lookup key o.actor.positions) ((queuedSells key).ofTasks o.spawned)
      (salesOf key o.effects) := by
  obtain ⟨f, hf, hsame⟩ := hrow
  rw [hf, hspawned, heffects]
  cases AList.lookup key m.positions with
  | none => exact .absent
  | some p => exact .kept (hsame p).1 (hsame p).2

namespace PositionManagerActor

variable (m : PositionManagerActor) (key : PositionKey)

theorem queuedSells_snapshotRefresh (m : PositionManagerActor) (env : TurnEnv) (mint : Address) :
    (queuedSells key).ofTasks (m.spawnLiveSnapshotRefresh env mint) = 0 := by
  unfold spawnLiveSnapshotRefresh
  split_ifs with h
  · dsimp only
    split <;> rfl
  · rfl

theorem queuedSells_refreshDue (env : TurnEnv) :
    (queuedSells key).ofTasks (m.refreshDueSnapshots env).2 = 0 := by
  unfold refreshDueSnapshots
  split_ifs with h
  · dsimp only
    generalize List.filter _ _ = mints
    induction mints with
    | nil => rfl
    | cons mint mints ih => simp [ih, queuedSells_snapshotRefresh]
  · rfl

theorem positions_refreshDue (env : TurnEnv) :
    (m.refreshDueSnapshots env).1.positions = m.positions := by
  unfold refreshDueSnapshots
  split_ifs <;> rfl

theorem tickRow_refreshDue (env : TurnEnv) : (m.refreshDueSnapshots env).1.tickRow = m.tickRow := by
  unfold refreshDueSnapshots
  split_ifs <;> rfl

theorem queuedSells_rowTasks (k : PositionKey) (r : TickResult) :
    (queuedSells key).ofTasks (rowTasks k r) =
      if k = key then (r.action.map fun a => (a.percent, a.reason)).elim 0 ({·}) else 0 := by
  obtain ⟨pos, action, poll⟩ := r
  cases action <;> cases poll <;> by_cases h : k = key <;>
    simp [rowTasks, InFlight.ofTask, queuedSells, h]

theorem ofTasks_flatMap {ι : Type*} (f : ι → List Task) (l : List ι) :
    (queuedSells key).ofTasks (l.flatMap f) =
      (l.map fun i => (queuedSells key).ofTasks (f i)).sum := by
  induction l with
  | nil => rfl
  | cons i l ih => simp [ih]

/-- What a tick queues for a key is what its row asks for. -/
theorem queuedSells_tick (env : TurnEnv) :
    (queuedSells key).ofTasks (m.tick env).spawned =
      (AList.lookup key m.positions).elim 0 fun p =>
        ((m.tickRow (env.clock 0) key p).action.map
          fun a => (a.percent, a.reason)).elim 0 ({·}) := by
  have hother (k : PositionKey) (p : Position) (hk : k ≠ key) :
      (queuedSells key).ofTasks (rowTasks k (m.tickRow (env.clock 0) k p)) = 0 := by
    rw [queuedSells_rowTasks, if_neg hk]
  simp only [tick, processPositions, InFlight.ofTasks_append, queuedSells_refreshDue, zero_add,
    ofTasks_flatMap, positions_refreshDue, tickRow_refreshDue]
  rw [KeyedMap.sum_entries_of_key m.positions key
    (fun k p => (queuedSells key).ofTasks (rowTasks k (m.tickRow (env.clock 0) k p))) hother]
  simp only [queuedSells_rowTasks, if_true]

/-- What the tick makes of a row under the key, and what it queues. -/
theorem rowTurn_tick (env : TurnEnv) :
    RowTurn m.config env key .tick (AList.lookup key m.positions)
      (AList.lookup key (m.tick env).actor.positions)
      ((queuedSells key).ofTasks (m.tick env).spawned) (salesOf key (m.tick env).effects) := by
  have hrow : AList.lookup key (m.tick env).actor.positions =
      (AList.lookup key m.positions).map fun p => (m.tickRow (env.clock 0) key p).pos := by
    simp only [tick, processPositions, KeyedMap.lookup_mapVals, positions_refreshDue,
      tickRow_refreshDue]
  have heffects : salesOf key (m.tick env).effects = [] := rfl
  rw [hrow, queuedSells_tick, heffects]
  cases AList.lookup key m.positions with
  | none => exact .absent
  | some p =>
    have hspec := tickPosition_spec m.config key.mint m.hasRpc (env.clock 0) p
    have hopen {a : SellAction} :=
      isClosing_of_action m.config key.mint m.hasRpc (env.clock 0) (p := p) (a := a)
    simp only [Option.map_some, Option.elim_some, tickRow]
    revert hspec hopen
    cases (tickPosition m.config key.mint m.hasRpc (env.clock 0) p).action with
    | none =>
      intro hspec _
      cases hspec with
      | quiet hsame => exact .kept (.of_books hsame.books) hsame.flags
    | some a => exact fun hspec hopen => .queued (hopen rfl) hspec

/-! ## The other messages -/

theorem lookup_updateRows (mint : Address) (f : Position → Position) :
    AList.lookup key (m.updateRows mint f).positions =
      (AList.lookup key m.positions).map fun p => if key.mint = mint then f p else p := by
  simp [updateRows]

/-- A change of every row of a mint that keeps what they hold and their flags. -/
theorem updateRows_kept (mint : Address) {f : Position → Position}
    (hf : ∀ p, SameHolding p (f p) ∧ (f p).flags = p.flags) :
    ∃ g : Position → Position,
      AList.lookup key (m.updateRows mint f).positions = (AList.lookup key m.positions).map g ∧
        ∀ p, SameHolding p (g p) ∧ (g p).flags = p.flags := by
  refine ⟨_, lookup_updateRows m key mint f, fun p => ?_⟩
  by_cases h : key.mint = mint
  · rw [if_pos h]; exact hf p
  · rw [if_neg h]; exact ⟨⟨rfl, rfl, rfl, rfl⟩, rfl⟩

/-- The row is left as it is. -/
theorem positions_kept {m' : PositionManagerActor}
    (h : AList.lookup key m'.positions = AList.lookup key m.positions) :
    ∃ g : Position → Position,
      AList.lookup key m'.positions = (AList.lookup key m.positions).map g ∧
        ∀ p, SameHolding p (g p) ∧ (g p).flags = p.flags :=
  ⟨id, by simp [h], fun _ => ⟨⟨rfl, rfl, rfl, rfl⟩, rfl⟩⟩

theorem salesOf_recordClose (env : TurnEnv) (reason : SellReason) (pos : Position) (total : ℚ) :
    ∃ entry, salesOf key (m.recordClose env key reason pos total).effects =
      [.notePositionClosed key (closedPnlSol pos total), .saveBotTrade key entry] := by
  have hquiet (l : List Effect) (h : ∀ e ∈ l, e.isSale = false) : salesOf key l = [] :=
    salesOf_eq_nil fun e he => .inl (h e he)
  simp only [recordClose, List.cons_append]
  rw [salesOf_notePositionClosed, salesOf_append, salesOf_append, salesOf_saveBotTrade,
    hquiet (ite _ _ _), hquiet]
  · exact ⟨_, rfl⟩
  · cases pos.devAddress with
    | none => simp
    | some dev => cases m.hasDevRanker <;> simp [Effect.isSale]
  · split_ifs <;> simp [Effect.isSale]

section
variable {m key} {env : TurnEnv} {percent : ℚ} {reason : SellReason} {pos : Position}

theorem exists_row_of_findsRow (h : m.findsRow key = true) :
    ∃ pos, AList.lookup key m.positions = some pos := by
  simp only [findsRow, Bool.and_eq_true, decide_eq_true_eq] at h
  exact KeyedMap.mem_iff_lookup.mp h.2

/-- A sell without its row or its wallet does nothing. -/
theorem executeSell_idle (h : m.findsRow key = false) :
    m.executeSell env key percent reason = m.idle := by
  unfold executeSell
  cases hwallet : m.wallets.get key.walletId with
  | none => rfl
  | some w =>
    cases hpos : AList.lookup key m.positions with
    | none => rfl
    | some pos =>
      simp [findsRow, hwallet, KeyedMap.mem_iff_lookup.mpr ⟨pos, hpos⟩] at h

theorem executeSell_error {e : BrokerError} (hfind : m.findsRow key = true)
    (hpos : AList.lookup key m.positions = some pos) (hsell : env.sell = .error e) :
    m.executeSell env key percent reason =
      ⟨{ m with positions := m.positions.insert key (rowAfterSellError e percent pos) }, [],
        [.brokerSell key (pos.sellQty percent) (percent ≥ 100) (.error e)]⟩ := by
  simp only [findsRow, Bool.and_eq_true] at hfind
  obtain ⟨w, hwallet⟩ := Option.isSome_iff_exists.mp hfind.1
  simp only [executeSell, hwallet, hpos, hsell, Position.sellQty]

theorem executeSell_part {r : SellReceipt} (hfind : m.findsRow key = true)
    (hpos : AList.lookup key m.positions = some pos) (hsell : env.sell = .ok r)
    (hpct : percent < 100) :
    m.executeSell env key percent reason =
      ⟨{ m with positions :=
          m.positions.insert key (rowAfterPartialSell r (pos.sellQty percent) pos) }, [],
        [.brokerSell key (pos.sellQty percent) false (.ok r)]⟩ := by
  simp only [findsRow, Bool.and_eq_true] at hfind
  obtain ⟨w, hwallet⟩ := Option.isSome_iff_exists.mp hfind.1
  simp only [executeSell, hwallet, hpos, hsell, Position.sellQty, hpct, if_true, ge_iff_le,
    not_le.mpr hpct, decide_false]

theorem executeSell_full {r : SellReceipt} (hfind : m.findsRow key = true)
    (hpos : AList.lookup key m.positions = some pos) (hsell : env.sell = .ok r)
    (hpct : 100 ≤ percent) :
    m.executeSell env key percent reason =
      ((maybeFinalizeClosedMint { m with positions := m.positions.erase key } key.mint).recordClose
        env key reason pos (pos.totalReturned + r.solReceivedActual)).after
        [.brokerSell key (pos.sellQty percent) true (.ok r)] := by
  simp only [findsRow, Bool.and_eq_true] at hfind
  obtain ⟨w, hwallet⟩ := Option.isSome_iff_exists.mp hfind.1
  simp only [executeSell, hwallet, hpos, hsell, Position.sellQty, not_lt.mpr hpct, if_false,
    ge_iff_le, hpct, decide_true]

end

theorem positions_maybeFinalizeClosedMint (mint : Address) :
    (m.maybeFinalizeClosedMint mint).positions = m.positions := by
  unfold maybeFinalizeClosedMint
  split_ifs <;> rfl

/-- What a sell of the key makes of its row. -/
theorem rowTurn_executeSell (env : TurnEnv) (percent : ℚ) (reason : SellReason) :
    RowTurn m.config env key (.executeSell key percent reason) (AList.lookup key m.positions)
      (AList.lookup key (m.executeSell env key percent reason).actor.positions)
      ((queuedSells key).ofTasks (m.executeSell env key percent reason).spawned)
      (salesOf key (m.executeSell env key percent reason).effects) := by
  cases hfind : m.findsRow key with
  | false =>
    rw [executeSell_idle hfind]
    exact .of_kept (m.positions_kept key rfl) rfl rfl
  | true =>
    obtain ⟨pos, hpos⟩ := exists_row_of_findsRow hfind
    rw [hpos]
    cases hsell : env.sell with
    | error e =>
      rw [executeSell_error hfind hpos hsell]
      simp only [AList.lookup_insert, salesOf_brokerSell, salesOf_nil, InFlight.ofTasks_nil]
      exact .failed hsell
    | ok r =>
      by_cases hpct : percent < 100
      · rw [executeSell_part hfind hpos hsell hpct]
        simp only [AList.lookup_insert, salesOf_brokerSell, salesOf_nil, InFlight.ofTasks_nil]
        exact .sold hsell hpct
      · rw [not_lt] at hpct
        rw [executeSell_full hfind hpos hsell hpct]
        obtain ⟨entry, hentry⟩ := salesOf_recordClose
          (maybeFinalizeClosedMint { m with positions := m.positions.erase key } key.mint) key env
          reason pos (pos.totalReturned + r.solReceivedActual)
        simp only [Outcome.after, List.cons_append, List.nil_append, salesOf_brokerSell, hentry]
        simp only [recordClose, positions_maybeFinalizeClosedMint, AList.lookup_erase]
        exact .closed hsell hpct

/-- A sell of another key leaves the row alone. -/
theorem executeSell_other (env : TurnEnv) {k : PositionKey} (percent : ℚ) (reason : SellReason)
    (hk : k ≠ key) :
    let o := m.executeSell env k percent reason
    AList.lookup key o.actor.positions = AList.lookup key m.positions ∧ o.spawned = [] ∧
      salesOf key o.effects = [] := by
  have hother (l : List Effect) (h : ∀ e ∈ l, e.key = k) : salesOf key l = [] :=
    salesOf_eq_nil fun e he => .inr (h e he ▸ hk)
  cases hfind : m.findsRow k with
  | false =>
    rw [executeSell_idle hfind]
    exact ⟨rfl, rfl, rfl⟩
  | true =>
    obtain ⟨pos, hpos⟩ := exists_row_of_findsRow hfind
    cases hsell : env.sell with
    | error e =>
      rw [executeSell_error hfind hpos hsell]
      exact ⟨AList.lookup_insert_ne hk.symm, rfl, hother _ (by simp [Effect.key])⟩
    | ok r =>
      by_cases hpct : percent < 100
      · rw [executeSell_part hfind hpos hsell hpct]
        exact ⟨AList.lookup_insert_ne hk.symm, rfl, hother _ (by simp [Effect.key])⟩
      · rw [executeSell_full hfind hpos hsell (not_lt.mp hpct)]
        refine ⟨?_, rfl, hother _ fun e he => ?_⟩
        · simp only [Outcome.after, recordClose, positions_maybeFinalizeClosedMint]
          exact AList.lookup_erase_ne hk.symm
        · simp only [Outcome.after, recordClose, List.mem_append, List.mem_cons,
            List.not_mem_nil, or_false] at he
          rcases he with rfl | ((rfl | he) | he) | rfl
          · rfl
          · rfl
          · cases hdev : pos.devAddress with
            | none => simp [hdev] at he
            | some dev =>
              cases hr : m.hasDevRanker <;> simp_all [maybeFinalizeClosedMint, Effect.key]
          · split_ifs at he <;> simp_all [Effect.key]
          · rfl

theorem queuedSells_fanOut (pool : Pool) (amountSol : ℚ) (tier : Tier) (dev : Option Address)
    (early : List Address) (snap : Option LearningTradeSnapshot) :
    (queuedSells key).ofTask (.fanOut (m.fanOutMessages pool amountSol tier dev early snap)) =
      0 := by
  simp only [InFlight.ofTask, fanOutMessages]
  induction m.wallets.enabledWallets with
  | nil => rfl
  | cons w ws ih => exact (congrArg _ ih).trans (zero_add _)

/-- Signals and orders leave the rows alone. -/
theorem initiateBuy_rows (env : TurnEnv) (pool : Pool) (amountSol : ℚ) (tier : Tier)
    (dev : Option Address) (early : List Address) (snap : Option LearningTradeSnapshot) :
    let o := m.initiateBuy env pool amountSol tier dev early snap
    o.actor.positions = m.positions ∧ (queuedSells key).ofTasks o.spawned = 0 ∧ o.effects = [] := by
  simp only [initiateBuy]
  split_ifs
  · exact ⟨rfl, rfl, rfl⟩
  · exact ⟨rfl, rfl, rfl⟩
  · exact ⟨rfl, rfl, rfl⟩
  · exact ⟨rfl, rfl, rfl⟩
  · exact ⟨rfl, rfl, rfl⟩
  · refine ⟨rfl, ?_, rfl⟩
    rw [InFlight.ofTasks_cons, queuedSells_fanOut]
    rfl

theorem executeBuy_rows (order : BuyOrder) :
    let o := m.executeBuy order
    o.actor.positions = m.positions ∧ (queuedSells key).ofTasks o.spawned = 0 ∧
      salesOf key o.effects = [] := by
  simp only [executeBuy]
  split_ifs
  · exact ⟨rfl, rfl, rfl⟩
  · exact ⟨rfl, rfl, rfl⟩
  · exact ⟨rfl, rfl, rfl⟩
  · cases AList.lookup order.mint m.poolCache with
    | none => exact ⟨rfl, rfl, rfl⟩
    | some pool => exact ⟨rfl, rfl, rfl⟩

theorem queuedSells_openPosition (env : TurnEnv) (order : BuyOrder) (pool : Pool) (r : BuyReceipt) :
    (queuedSells key).ofTasks (m.openPosition env order pool r).spawned = 0 := by
  simp only [openPosition]
  split_ifs
  · exact queuedSells_snapshotRefresh _ _ _ _
  · rfl

/-- The result of a buy queues no sell. -/
theorem queuedSells_applyBuyResult (env : TurnEnv) (order : BuyOrder) (pool : Pool)
    (result : Except BrokerError BuyReceipt) :
    (queuedSells key).ofTasks (m.applyBuyResult env order pool result).spawned = 0 := by
  cases result with
  | error e => rfl
  | ok r =>
    rcases m.applyBuyResult_ok env order pool r with
      ⟨-, spike, sr, -, -, heq⟩ | ⟨-, sold, -, heq⟩
    · rw [heq]
      rfl
    · rw [heq]
      exact queuedSells_openPosition _ _ env order pool r

/-- The result of a buy leaves the rows of other keys alone. -/
theorem applyBuyResult_other (env : TurnEnv) {order : BuyOrder} (pool : Pool)
    {result : Except BrokerError BuyReceipt} (h : ∀ r, result = .ok r → order.key ≠ key) :
    let o := m.applyBuyResult env order pool result
    AList.lookup key o.actor.positions = AList.lookup key m.positions ∧
      salesOf key o.effects = [] := by
  cases result with
  | error e =>
    refine ⟨?_, rfl⟩
    simp only [applyBuyResult, applyBuyError, idle]
    split_ifs <;> rfl
  | ok r =>
    have hk := h r rfl
    have hother (l : List Effect) (h : ∀ e ∈ l, e.key = order.key) : salesOf key l = [] :=
      salesOf_eq_nil fun e he => .inr (h e he ▸ hk)
    rcases m.applyBuyResult_ok env order pool r with
      ⟨-, spike, sr, -, -, heq⟩ | ⟨-, sold, hsold, heq⟩
    · rw [heq]
      exact ⟨rfl, hother _ (by simp [Outcome.after, abortFill, Effect.key])⟩
    · rw [heq]
      refine ⟨AList.lookup_insert_ne hk.symm, hother _ fun e he => ?_⟩
      rcases List.mem_append.mp he with he | he
      · rcases List.mem_cons.mp he with rfl | he
        · rfl
        · rw [hsold e he]
          rfl
      · rw [openPosition, List.mem_singleton] at he
        subst he
        rfl

/-- **The turns of a row.** Every turn, apart from a fill of the row's own key, is one of
`RowTurn`. -/
theorem rowTurn_handle (env : TurnEnv) (msg : PositionMessage)
    (hfill : ∀ order pool r, msg = .buyCompleted order pool (.ok r) → order.key ≠ key) :
    RowTurn m.config env key msg (AList.lookup key m.positions)
      (AList.lookup key (m.handle env msg).actor.positions)
      ((queuedSells key).ofTasks (m.handle env msg).spawned)
      (salesOf key (m.handle env msg).effects) := by
  cases msg with
  | updatePool pool =>
    exact .of_kept (updateRows_kept _ key _ fun p => ⟨⟨rfl, rfl, rfl, rfl⟩, rfl⟩) rfl rfl
  | updateTokenBucket pool =>
    refine .of_kept (updateRows_kept _ key _ fun p => ⟨⟨rfl, rfl, rfl, rfl⟩, rfl⟩) ?_ rfl
    simp only [handle, updateTokenBucket]
    split_ifs
    · exact queuedSells_snapshotRefresh _ _ _ _
    · rfl
  | applyLiveSnapshot mint live =>
    exact .of_kept (updateRows_kept _ key _ fun p => ⟨⟨rfl, rfl, rfl, rfl⟩, rfl⟩) rfl rfl
  | setPaused paused => exact .of_kept (positions_kept m key rfl) rfl rfl
  | tick => exact m.rowTurn_tick key env
  | applyExitMcapRefresh mint mcap useJupiter =>
    refine .of_kept (updateRows_kept _ key _ fun p => ?_) rfl rfl
    unfold applyExitMcap
    split_ifs <;> exact ⟨⟨rfl, rfl, rfl, rfl⟩, rfl⟩
  | clearPendingMint mint => exact .of_kept (positions_kept m key rfl) rfl rfl
  | initiateBuy pool amountSol tier dev early snap =>
    obtain ⟨hrows, hspawned, heffects⟩ :=
      m.initiateBuy_rows key env pool amountSol tier dev early snap
    exact .of_kept (positions_kept m key (by rw [handle, hrows])) hspawned
      (by rw [handle, heffects]; rfl)
  | executeBuy order =>
    obtain ⟨hrows, hspawned, heffects⟩ := m.executeBuy_rows key order
    exact .of_kept (positions_kept m key (by rw [handle, hrows])) hspawned heffects
  | buyCompleted order pool result =>
    obtain ⟨hrow, heffects⟩ := m.applyBuyResult_other key env pool
      fun r (hr : result = _) => hfill order pool r (congrArg _ hr)
    exact .of_kept (positions_kept m key hrow)
      (m.queuedSells_applyBuyResult key env order pool result) heffects
  | executeSell k percent reason =>
    by_cases hk : k = key
    · subst hk
      exact m.rowTurn_executeSell k env percent reason
    · obtain ⟨hrow, hspawned, heffects⟩ := m.executeSell_other key env percent reason
        hk
      refine .of_kept (positions_kept m key hrow) ?_ heffects
      rw [handle, hspawned]
      rfl
  | abandonPosition mint walletId =>
    have heffects : salesOf key (m.abandonPosition mint walletId).effects = [] := by
      refine salesOf_eq_nil fun e he => .inl ?_
      obtain ⟨k, -, rfl⟩ := List.mem_map.mp he
      rfl
    have hrow : AList.lookup key (m.abandonPosition mint walletId).actor.positions =
        if key ∈ m.abandonedKeys mint walletId then none else AList.lookup key m.positions := by
      simp only [abandonPosition, positions_maybeFinalizeClosedMint, KeyedMap.lookup_eraseAll]
    by_cases hmem : key ∈ m.abandonedKeys mint walletId
    · rw [if_pos hmem] at hrow
      rw [handle, hrow, heffects]
      cases AList.lookup key m.positions with
      | none => exact .absent
      | some p => exact .abandoned
    · rw [if_neg hmem] at hrow
      exact .of_kept (positions_kept m key hrow) rfl heffects

/-- No turn changes the configuration. -/
theorem config_handle (env : TurnEnv) (msg : PositionMessage) :
    (m.handle env msg).actor.config = m.config := by
  have hfinal (m : PositionManagerActor) (mint : Address) :
      (m.maybeFinalizeClosedMint mint).config = m.config := by
    unfold maybeFinalizeClosedMint
    split_ifs <;> rfl
  cases msg with
  | initiateBuy pool amountSol tier dev early snap =>
    simp only [handle, initiateBuy]
    split_ifs <;> rfl
  | executeBuy order =>
    simp only [handle, executeBuy]
    split_ifs
    · rfl
    · rfl
    · rfl
    · cases AList.lookup order.mint m.poolCache <;> rfl
  | buyCompleted order pool result =>
    simp only [handle, applyBuyResult]
    cases result with
    | error e =>
      simp only [applyBuyError, idle]
      split_ifs <;> rfl
    | ok r =>
      dsimp only
      split
      · split <;> rfl
      · rfl
  | executeSell key percent reason =>
    rw [handle, executeSell]
    cases m.wallets.get key.walletId with
    | none => rfl
    | some w =>
      cases AList.lookup key m.positions with
      | none => rfl
      | some pos =>
        cases env.sell with
        | error e => rfl
        | ok r =>
          dsimp only
          split_ifs
          · rfl
          · exact hfinal _ _
  | abandonPosition mint walletId => exact hfinal _ _
  | tick =>
    simp only [handle, tick, processPositions, refreshDueSnapshots]
    split_ifs <;> rfl
  | _ => rfl

end PositionManagerActor

/-! ## The row that a fill opens -/

/-- A market cap that is noted changes the exit ticks only. -/
theorem Position.exists_pushExitMcapTick (pos : Position) (mcap : ℚ) (n : ℕ) :
    ∃ ticks, pos.pushExitMcapTick mcap n = { pos with exitMcapTicks := ticks } := by
  unfold Position.pushExitMcapTick
  split_ifs
  · exact ⟨_, rfl⟩
  · exact ⟨pos.exitMcapTicks, rfl⟩

/-- A fill opens a new row with what its signal told and what it cost; the exit engine's own fields
are set besides. -/
theorem PositionManagerActor.exists_openedPosition (cfg : SmartBuyConfig) (order : BuyOrder)
    (pool : Pool) (r : BuyReceipt) (now : ℕ) :
    ∃ ticks prevMcap buyers smart b2s profile hold phase floor score scoredAt,
      openedPosition cfg order pool r now =
        { Position.new order.walletId pool (.fromFloatNative r.tokensReceived) now
            (entryBaselineMcap cfg order.learningSnapshot r) with
          exitProfitFloor := cfg.exitProfitFloor
          spentSol := order.amountSol
          devAddress := order.devAddress
          earlyBuyers := order.earlyBuyers
          learningSnapshot := order.learningSnapshot
          exitMcapTicks := ticks
          slPrevRawMcap := prevMcap
          tkEntryBuyers := buyers
          tkEntrySmart := smart
          tkEntryB2s := b2s
          exitProfile := profile
          holdMode := hold
          exitPhase := phase
          liveScoreEntryFloor := floor
          liveScore := score
          lastLiveScoreAt := scoredAt } := by
  unfold openedPosition
  extract_lets tokens baseline new ticked entry signalled thresholds profile profiled learned
  obtain ⟨ticks, prevMcap, hticked⟩ : ∃ ticks prevMcap,
      ticked = { new with exitMcapTicks := ticks, slPrevRawMcap := prevMcap } := by
    unfold ticked
    split
    · obtain ⟨ticks, hticks⟩ := Position.exists_pushExitMcapTick { new with exitMcapTicks := [] } _
        cfg.exitMcapMedianTicks
      exact ⟨ticks, _, by rw [hticks]⟩
    · exact ⟨_, _, rfl⟩
  obtain ⟨ticks', hticks'⟩ := Position.exists_pushExitMcapTick learned learned.enterMcap.toFloat
    cfg.exitMcapMedianTicks
  rw [hticks']
  unfold learned profiled signalled
  clear_value profile entry ticked
  subst hticked
  split_ifs <;> exact ⟨_, _, _, _, _, _, _, _, _, _, _, rfl⟩

/-! ## Steps -/

/-- The row under a key. -/
def System.row (s : System) (key : PositionKey) : Option Position :=
  AList.lookup key s.actor.positions

/-- The message that a step takes from the mailbox. -/
def System.taken (s : System) : Event → Option PositionMessage
  | .turn _ => s.mailbox.head?
  | _ => none

theorem System.mailbox_of_taken {s : System} {env : TurnEnv} {msg : PositionMessage}
    (h : s.taken (.turn env) = some msg) : ∃ rest, s.mailbox = msg :: rest := by
  cases hbox : s.mailbox with
  | nil => simp [System.taken, hbox] at h
  | cons msg' rest =>
    simp only [System.taken, hbox, List.head?_cons, Option.some.injEq] at h
    exact ⟨rest, by rw [h]⟩

/-- The message is a fill of the key. -/
def PositionMessage.fills (key : PositionKey) : PositionMessage → Bool
  | buyCompleted order _ (.ok _) => order.key == key
  | _ => false

/-- The configuration never changes. -/
theorem config_step {s t : System} {e : Event} (h : s.step e = some t) :
    t.actor.config = s.actor.config := by
  by_cases he : ∀ env, e ≠ .turn env
  · obtain ⟨-, -, -, -, hcfg, -⟩ := System.step_idle h he
    exact hcfg
  · push Not at he
    obtain ⟨env, rfl⟩ := he
    obtain ⟨msg, rest, -, rfl⟩ := System.step_turn h
    exact PositionManagerActor.config_handle _ _ _

/-- **One step of a row.** Outside the turns nothing of the row changes; a turn that takes no fill
of the key is a turn of the row, and what is queued for the key changes by the message and by what
the turn queues. -/
theorem row_step {s t : System} {e : Event} {key : PositionKey} (h : s.step e = some t)
    (hfill : ∀ msg ∈ s.taken e, msg.fills key = false) :
    (t.row key = s.row key ∧ t.log = s.log ∧ s.taken e = none ∧
      (queuedSells key).total t = (queuedSells key).total s) ∨
    ∃ env msg rest queued effects, e = .turn env ∧ s.taken e = some msg ∧
      t.log = s.log ++ effects ∧
      RowTurn s.actor.config env key msg (s.row key) (t.row key) queued (salesOf key effects) ∧
      (queuedSells key).total s = (queuedSells key).ofMessage msg + rest ∧
      (queuedSells key).total t = rest + queued := by
  by_cases he : ∀ env, e ≠ .turn env
  · obtain ⟨hlog, hpos, -, -, -, -⟩ := System.step_idle h he
    refine .inl ⟨by rw [System.row, hpos]; rfl, hlog, ?_, (queuedSells key).total_idle h he⟩
    cases e with
    | turn env => exact absurd rfl (he env)
    | _ => rfl
  · push Not at he
    obtain ⟨env, rfl⟩ := he
    obtain ⟨msg, rest, hbox, ht⟩ := System.step_turn h
    obtain ⟨hs, ht'⟩ := (queuedSells key).total_turn hbox h
    have htaken : s.taken (.turn env) = some msg := by simp [System.taken, hbox]
    have hturn := s.actor.rowTurn_handle key env msg fun order pool r hmsg => by
      have := hfill msg htaken
      simpa [hmsg, PositionMessage.fills] using this
    rw [add_assoc] at hs
    subst ht
    exact .inr ⟨env, msg, _, _, _, rfl, htaken, rfl, hturn, hs, ht'⟩

end Loggaper
