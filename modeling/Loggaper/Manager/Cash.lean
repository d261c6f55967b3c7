import Loggaper.Lib.Ledger
import Loggaper.Manager.Rows
import Loggaper.Manager.TradeBudget

/-!
# The cash of the manager

The manager orders for SOL, sells for SOL, and tells the strategy controller what each fill has made
or lost. Nothing compares the three. `cash_balance` does, over every run: what the sells have
brought in is what was ordered, with what was told, with the rows that are still open, and with what
was written off. Rows are written off when they are abandoned, when a second fill comes over them,
and when they close without having cost anything.

Amounts are what was ordered, as the source counts them, not what the fill really spent.
-/

namespace Loggaper

open Ledger

/-! ## What is counted -/

/-- What the confirmed sells bring in. -/
def receipts (log : List Effect) : Ledger PositionKey ℚ :=
  log.filterMap fun e => match e with
    | .brokerSell key _ _ (.ok r) => some (key, r.solReceivedActual)
    | _ => none

/-- What the strategy controller is told. -/
def toldPnl (log : List Effect) : Ledger PositionKey ℚ :=
  log.filterMap fun e => match e with
    | .notePositionClosed key pnlSol => some (key, pnlSol)
    | _ => none

/-- What a row has returned, less what it has cost. -/
def Position.netSol (pos : Position) : ℚ := pos.totalReturned - pos.spentSol

namespace PositionManagerActor

variable (m : PositionManagerActor)

/-- The rows. -/
def openNet : Ledger PositionKey ℚ := m.positions.entries.map fun e => (e.1, e.2.netSol)

/-- The rows of some keys. -/
def netOf (keys : List PositionKey) : Ledger PositionKey ℚ :=
  keys.filterMap fun key => (AList.lookup key m.positions).map fun pos => (key, pos.netSol)

/-- What the fill that a message brings was ordered for. -/
def outlay : PositionMessage → Ledger PositionKey ℚ
  | .buyCompleted order _ (.ok _) => [(order.key, order.amountSol)]
  | _ => []

/-- The rows that go in a turn without anybody being told. -/
def writtenOff (env : TurnEnv) : PositionMessage → Ledger PositionKey ℚ
  | .abandonPosition mint walletId => m.netOf (m.abandonedKeys mint walletId)
  | .buyCompleted order _ (.ok receipt) =>
    if m.abortsFill env order receipt then [] else m.netOf [order.key]
  | .executeSell key percent _ =>
    match AList.lookup key m.positions, env.sell with
    | some pos, .ok r =>
      -- the controller is told 0
      if m.closesRow env key percent ∧ ¬ pos.spentSol > 0 then
        [(key, pos.netSol + r.solReceivedActual)]
      else []
    | _, _ => []
  | _ => []

end PositionManagerActor

/-- A turn of a run. -/
structure Turn where
  actor : PositionManagerActor
  env : TurnEnv
  msg : PositionMessage

def System.turnOf (s : System) : Event → Option Turn
  | .turn env => s.mailbox.head?.map fun msg => ⟨s.actor, env, msg⟩
  | _ => none

/-- The turns of a run. -/
def turns (s : System) (es : List Event) : List Turn := manager.trace System.turnOf s es

def outlays (us : List Turn) : Ledger PositionKey ℚ :=
  us.flatMap fun u => PositionManagerActor.outlay u.msg

def writeOffs (us : List Turn) : Ledger PositionKey ℚ :=
  us.flatMap fun u => u.actor.writtenOff u.env u.msg

/-! ## Sales in a log -/

theorem receipts_append (l l' : List Effect) : receipts (l ++ l') = receipts l ++ receipts l' :=
  List.filterMap_append

theorem toldPnl_append (l l' : List Effect) : toldPnl (l ++ l') = toldPnl l ++ toldPnl l' :=
  List.filterMap_append

variable {key : PositionKey}

/-- What is counted of a key is counted of its sales. -/
theorem account_salesOf {f : Effect → Option (PositionKey × ℚ)}
    (hf : ∀ e p, f e = some p → e.isSale = true ∧ e.key = p.1) (l : List Effect) :
    account key (l.filterMap f) = account key ((salesOf key l).filterMap f) := by
  induction l with
  | nil => rfl
  | cons e l ih =>
    by_cases he : (e.isSale && e.key == key) = true
    · have hsales : salesOf key (e :: l) = e :: salesOf key l := List.filter_cons_of_pos he
      rw [hsales]
      cases hfe : f e with
      | none => rw [List.filterMap_cons_none hfe, List.filterMap_cons_none hfe, ih]
      | some p =>
        rw [List.filterMap_cons_some hfe, List.filterMap_cons_some hfe, account_cons, ih,
          account_cons]
    · have hsales : salesOf key (e :: l) = salesOf key l := List.filter_cons_of_neg he
      rw [hsales, ← ih]
      cases hfe : f e with
      | none => rw [List.filterMap_cons_none hfe]
      | some p =>
        obtain ⟨hsale, hkey⟩ := hf e p hfe
        have hother : p.1 ≠ key := by simpa [hsale, hkey] using he
        rw [List.filterMap_cons_some hfe, account_cons, if_neg hother, zero_add]

theorem account_receipts (l : List Effect) :
    account key (receipts l) = account key (receipts (salesOf key l)) := by
  refine account_salesOf (fun e p h => ?_) l
  split at h
  · cases h
    exact ⟨rfl, rfl⟩
  · cases h

theorem account_toldPnl (l : List Effect) :
    account key (toldPnl l) = account key (toldPnl (salesOf key l)) := by
  refine account_salesOf (fun e p h => ?_) l
  split at h
  · cases h
    exact ⟨rfl, rfl⟩
  · cases h

/-! ## A turn -/

/-- What a row is worth to the books, when it is there. -/
def netOfRow (row : Option Position) : ℚ := row.elim 0 Position.netSol

namespace PositionManagerActor

variable {m : PositionManagerActor} {env : TurnEnv}

theorem account_openNet (m : PositionManagerActor) :
    account key m.openNet = netOfRow (AList.lookup key m.positions) := by
  have hkey (a : PositionKey) (pos : Position) (h : a ≠ key) :
      (if (a == key) = true then pos.netSol else 0) = 0 := if_neg (by simpa using h)
  have hsum := KeyedMap.sum_entries_of_key m.positions key
    (fun a pos => if (a == key) = true then pos.netSol else 0) hkey
  simp only [beq_self_eq_true, if_true] at hsum
  rw [netOfRow, ← hsum, account, share, openNet, List.map_map]
  rfl

theorem account_netOf {keys : List PositionKey} (h : keys.Nodup) :
    account key (m.netOf keys) =
      if key ∈ keys then netOfRow (AList.lookup key m.positions) else 0 := by
  induction keys with
  | nil => rfl
  | cons a keys ih =>
    obtain ⟨hnew, hkeys⟩ := List.nodup_cons.mp h
    cases hrow : AList.lookup a m.positions with
    | none =>
      rw [netOf, List.filterMap_cons_none (by rw [hrow]; rfl), ← netOf, ih hkeys]
      by_cases ha : key = a
      · subst ha
        simp [netOfRow, hrow, hnew]
      · simp [ha]
    | some pos =>
      rw [netOf, List.filterMap_cons_some (by rw [hrow]; rfl), ← netOf, account_cons, ih hkeys]
      by_cases ha : key = a
      · subst ha
        simp [netOfRow, hrow, hnew]
      · simp [ha, Ne.symm ha]

/-- The turn balances for the key. -/
def Balances (m : PositionManagerActor) (env : TurnEnv) (msg : PositionMessage) (o : Outcome)
    (key : PositionKey) : Prop :=
  account key (receipts o.effects) + netOfRow (AList.lookup key m.positions) =
    account key (outlay msg) + account key (toldPnl o.effects) +
      netOfRow (AList.lookup key o.actor.positions) + account key (m.writtenOff env msg)

theorem netSol_of_same {p q : Position} (h : SameHolding p q) : q.netSol = p.netSol := by
  rw [Position.netSol, Position.netSol, h.totalReturned, h.spentSol]

/-- A turn that neither sells nor abandons. -/
theorem quiet_of_rowTurn {cfg : SmartBuyConfig} {msg : PositionMessage} {row row' : Option Position}
    {queued : Multiset (ℚ × SellReason)} {sales : List Effect}
    (h : RowTurn cfg env key msg row row' queued sales)
    (hsell : ∀ k percent reason, msg ≠ .executeSell k percent reason)
    (habandon : ∀ mint walletId, msg ≠ .abandonPosition mint walletId) :
    netOfRow row' = netOfRow row ∧ sales = [] := by
  cases h with
  | absent => exact ⟨rfl, rfl⟩
  | kept hsame _ => exact ⟨netSol_of_same hsame, rfl⟩
  | queued _ hspec => exact ⟨netSol_of_same (.of_books hspec.books), rfl⟩
  | failed => exact absurd rfl (hsell _ _ _)
  | sold => exact absurd rfl (hsell _ _ _)
  | closed => exact absurd rfl (hsell _ _ _)
  | abandoned => exact absurd rfl (habandon _ _)

theorem Balances.of_quiet {msg : PositionMessage} {o : Outcome}
    (hrow : netOfRow (AList.lookup key o.actor.positions) =
      netOfRow (AList.lookup key m.positions))
    (hsales : salesOf key o.effects = []) (houtlay : account key (outlay msg) = 0)
    (hoff : account key (m.writtenOff env msg) = 0) : m.Balances env msg o key := by
  rw [Balances, account_receipts, account_toldPnl, hsales, hrow, houtlay, hoff, add_zero, zero_add]
  rfl

theorem balances_executeSell (k : PositionKey) (percent : ℚ) (reason : SellReason) :
    m.Balances env (.executeSell k percent reason) (m.executeSell env k percent reason) key := by
  by_cases hk : k = key
  · subst hk
    cases hfind : m.findsRow k with
    | false =>
      rw [executeSell_idle hfind]
      refine .of_quiet rfl rfl rfl ?_
      simp only [writtenOff, closesRow, hfind]
      split <;> simp [account]
    | true =>
      obtain ⟨pos, hpos⟩ := exists_row_of_findsRow hfind
      cases hsell : env.sell with
      | error e =>
        have hrow : (rowAfterSellError e percent pos).netSol = pos.netSol := by
          unfold rowAfterSellError
          split_ifs <;> rfl
        rw [executeSell_error hfind hpos hsell]
        simp only [Balances, AList.lookup_insert, hpos, netOfRow, Option.elim_some, hrow,
          writtenOff, hsell]
        simp [receipts, toldPnl, outlay, account]
      | ok r =>
        by_cases hpct : percent < 100
        · have hopen : m.closesRow env k percent = false := by
            simp [closesRow, not_le.mpr hpct]
          rw [executeSell_part hfind hpos hsell hpct]
          simp only [Balances, AList.lookup_insert, hpos, netOfRow, Option.elim_some, writtenOff,
            hsell, hopen]
          simp [receipts, toldPnl, outlay, account, rowAfterPartialSell, Position.netSol]
          ring
        · have hclose : m.closesRow env k percent = true := by
            simp [closesRow, hfind, hsell, Except.toBool, not_lt.mp hpct]
          rw [executeSell_full hfind hpos hsell (not_lt.mp hpct)]
          obtain ⟨entry, hentry⟩ := salesOf_recordClose
            (maybeFinalizeClosedMint { m with positions := m.positions.erase k } k.mint) k env
            reason pos (pos.totalReturned + r.solReceivedActual)
          rw [Balances, account_receipts, account_toldPnl]
          simp only [Outcome.after, List.cons_append, List.nil_append, salesOf_brokerSell, hentry]
          simp only [recordClose, positions_maybeFinalizeClosedMint, AList.lookup_erase, hpos,
            netOfRow, Option.elim_some, Option.elim_none, writtenOff, hsell, hclose]
          by_cases hcost : pos.spentSol > 0
          · simp [receipts, toldPnl, outlay, account, closedPnlSol, hcost, Position.netSol]
            ring
          · simp [receipts, toldPnl, outlay, account, closedPnlSol, hcost]
            ring
  · obtain ⟨hrow, -, hsales⟩ := m.executeSell_other key env percent reason hk
    refine .of_quiet (congrArg netOfRow hrow) hsales rfl (account_eq_zero fun e he => ?_)
    simp only [writtenOff] at he
    split at he
    · split_ifs at he
      · rw [List.mem_singleton] at he
        subst he
        exact hk
      · cases he
    · cases he

theorem account_netOf_singleton (m : PositionManagerActor) (k : PositionKey) :
    account key (m.netOf [k]) = if k = key then netOfRow (AList.lookup key m.positions) else 0 := by
  rw [account_netOf (List.nodup_singleton k)]
  simp only [List.mem_singleton, eq_comm]

/-- A fill that is kept is not sold, and nobody is told of it. -/
theorem cash_of_keptFill {order : BuyOrder} (pool : Pool) {r : BuyReceipt}
    (h : m.abortsFill env order r = false) :
    let o := m.applyBuyResult env order pool (.ok r)
    receipts o.effects = [] ∧ toldPnl o.effects = [] := by
  have hspike : detectFillMcapSpike (m.forgetWalletBuy order.key).config order.learningSnapshot r =
      detectFillMcapSpike m.config order.learningSnapshot r := rfl
  have hwallet : (m.forgetWalletBuy order.key).wallets.get order.walletId =
      m.wallets.get order.walletId := rfl
  simp only [applyBuyResult, hspike, hwallet]
  rw [abortsFill] at h
  cases hs : detectFillMcapSpike m.config order.learningSnapshot r with
  | none => exact ⟨rfl, rfl⟩
  | some spike =>
    cases hw : m.wallets.get order.walletId with
    | none => exact ⟨rfl, rfl⟩
    | some w =>
      cases hsell : env.sell with
      | error e => exact ⟨rfl, rfl⟩
      | ok sr => simp [hs, hw, hsell, Except.toBool] at h

theorem netSol_openedPosition (cfg : SmartBuyConfig) (order : BuyOrder) (pool : Pool)
    (r : BuyReceipt) (now : ℕ) :
    (openedPosition cfg order pool r now).netSol = -order.amountSol := by
  obtain ⟨_, _, _, _, _, _, _, _, _, _, _, hopened⟩ := exists_openedPosition cfg order pool r now
  rw [hopened]
  exact zero_sub order.amountSol

theorem balances_buyCompleted (order : BuyOrder) (pool : Pool)
    (result : Except BrokerError BuyReceipt) :
    m.Balances env (.buyCompleted order pool result) (m.applyBuyResult env order pool result)
      key := by
  cases result with
  | error e =>
    have hfailed (r : BuyReceipt) (hr : Except.error e = Except.ok r) : order.key ≠ key := by
      cases hr
    obtain ⟨hrow, hsales⟩ := m.applyBuyResult_other key env pool hfailed
    exact .of_quiet (congrArg netOfRow hrow) hsales rfl rfl
  | ok receipt =>
    rcases m.applyBuyResult_ok env order pool receipt with
      ⟨habort, spike, r, hsell, -, heq⟩ | ⟨hkeep, sold, hsold, heq⟩
    · rw [heq]
      simp only [Balances, writtenOff, habort, if_true, Outcome.after, abortFill, forgetWalletBuy]
      by_cases hk : order.key = key
      · simp [receipts, toldPnl, outlay, account, hsell, hk]
      · simp [receipts, toldPnl, outlay, account, hsell, hk]
    · obtain ⟨hreceipts, htold⟩ := cash_of_keptFill pool hkeep
      have hrow : AList.lookup key (m.applyBuyResult env order pool (.ok receipt)).actor.positions =
          if key = order.key then some (openedPosition m.config order pool receipt (env.clock 0))
          else AList.lookup key m.positions := by
        rw [heq]
        exact KeyedMap.lookup_insert_eq _ _ _ _
      rw [Balances, hreceipts, htold, hrow]
      simp only [writtenOff, hkeep, Bool.false_eq_true, if_false, account_netOf_singleton]
      by_cases hk : key = order.key
      · simp [hk, outlay, account, netOfRow, netSol_openedPosition]
      · simp [hk, Ne.symm hk, outlay, account]

theorem balances_abandonPosition (mint : Address) (walletId : Option String) :
    m.Balances env (.abandonPosition mint walletId) (m.abandonPosition mint walletId) key := by
  have hsales : salesOf key (m.abandonPosition mint walletId).effects = [] := by
    refine salesOf_eq_nil fun e he => .inl ?_
    obtain ⟨k, -, rfl⟩ := List.mem_map.mp he
    rfl
  have hrow : AList.lookup key (m.abandonPosition mint walletId).actor.positions =
      if key ∈ m.abandonedKeys mint walletId then none else AList.lookup key m.positions := by
    simp only [abandonPosition, positions_maybeFinalizeClosedMint, KeyedMap.lookup_eraseAll]
  have hkeys : (m.abandonedKeys mint walletId).Nodup := m.positions.keys_nodup.filter _
  rw [Balances, account_receipts, account_toldPnl, hsales, hrow, writtenOff, account_netOf hkeys]
  by_cases hmem : key ∈ m.abandonedKeys mint walletId
  · rw [if_pos hmem, if_pos hmem]
    simp [receipts, toldPnl, outlay, account, netOfRow]
  · rw [if_neg hmem, if_neg hmem]
    simp [receipts, toldPnl, outlay, account]

variable (m key env) in
/-- **A turn balances.** -/
theorem balances_handle (msg : PositionMessage) :
    m.Balances env msg (m.handle env msg) key := by
  have hquiet (hfill : ∀ order pool r, msg ≠ .buyCompleted order pool (.ok r))
      (hsell : ∀ k percent reason, msg ≠ .executeSell k percent reason)
      (habandon : ∀ mint walletId, msg ≠ .abandonPosition mint walletId)
      (houtlay : outlay msg = []) (hoff : m.writtenOff env msg = []) :
      m.Balances env msg (m.handle env msg) key := by
    obtain ⟨hrow, hsales⟩ := quiet_of_rowTurn
      (m.rowTurn_handle key env msg fun order pool r h => absurd h (hfill order pool r))
      hsell habandon
    exact .of_quiet hrow hsales (by rw [houtlay]; rfl) (by rw [hoff]; rfl)
  cases msg with
  | buyCompleted order pool result => exact balances_buyCompleted order pool result
  | executeSell k percent reason => exact balances_executeSell k percent reason
  | abandonPosition mint walletId => exact balances_abandonPosition mint walletId
  | _ => exact hquiet (by simp) (by simp) (by simp) rfl rfl

end PositionManagerActor

/-! ## A run -/

/-- The books after some turns. -/
def CashBooks (s : System) (us : List Turn) : Prop :=
  ∀ key, account key (receipts s.log) =
    account key (outlays us) + account key (toldPnl s.log) + netOfRow (s.row key) +
      account key (writeOffs us)

theorem CashBooks.step {s t : System} {us : List Turn} {e : Event} (h : CashBooks s us)
    (hstep : s.step e = some t) : CashBooks t (us ++ (s.turnOf e).toList) := by
  by_cases he : ∀ env, e ≠ .turn env
  · obtain ⟨hlog, hrows, -⟩ := System.step_idle hstep he
    have hnone : s.turnOf e = none := by
      cases e with
      | turn env => exact absurd rfl (he env)
      | _ => rfl
    intro key
    have hrow : t.row key = s.row key := congrArg (AList.lookup key) hrows
    rw [hnone, Option.toList_none, List.append_nil, hlog, hrow]
    exact h key
  · push Not at he
    obtain ⟨env, rfl⟩ := he
    obtain ⟨msg, rest, hbox, rfl⟩ := System.step_turn hstep
    have hturn : s.turnOf (.turn env) = some ⟨s.actor, env, msg⟩ := by
      rw [System.turnOf, hbox]
      rfl
    intro key
    have hbefore := h key
    have hbalances := s.actor.balances_handle key env msg
    rw [PositionManagerActor.Balances] at hbalances
    simp only [hturn, Option.toList_some, outlays, writeOffs, List.flatMap_append,
      List.flatMap_singleton, receipts_append, toldPnl_append, account_append, System.row] at *
    linarith

theorem cashBooks_fresh {s : System} (h : s.Fresh) : CashBooks s [] := by
  intro key
  rw [h.log, System.row, h.positions, AList.lookup_empty]
  simp [receipts, toldPnl, outlays, writeOffs, account, netOfRow]

/-- The books of any set of keys. -/
theorem CashBooks.share {s : System} {us : List Turn} (h : CashBooks s us)
    (P : PositionKey → Bool) :
    Ledger.share P (receipts s.log) =
      Ledger.share P (outlays us) + Ledger.share P (toldPnl s.log) +
        Ledger.share P s.actor.openNet + Ledger.share P (writeOffs us) := by
  rw [← share_append, ← share_append, ← share_append]
  refine share_congr P fun key => ?_
  rw [account_append, account_append, account_append, PositionManagerActor.account_openNet]
  exact h key

/-- **The cash balances.** For each row, each wallet, each mint, or any other set of keys, in every
run and whatever the brokers answer. -/
theorem cash_balance {s t : System} {es : List Event} (hfresh : s.Fresh)
    (h : manager.Path Machine.free s es t) (P : PositionKey → Bool) :
    share P (receipts t.log) =
      share P (outlays (turns s es)) + share P (toldPnl t.log) + share P t.actor.openNet +
        share P (writeOffs (turns s es)) := by
  have hbooks : CashBooks t (turns s es) :=
    h.invariant_trace (I := CashBooks) (fun _ _ _ _ hu _ hstep => hu.step hstep)
      (cashBooks_fresh hfresh)
  exact hbooks.share P

/-- Two wallets buy, one of them sells, and the row of the other is abandoned. -/
def soldAndAbandoned : List Event :=
  [signal 1, turn, .resume 0 .go, turn, .resume 0 .go, turn, .resume 0 .go, turn, filled 0 1000,
    turn, filled 0 1000, turn, .post .tick, turnAt 100, .resume 0 .go, turnAt 100,
    .post (.abandonPosition 1 none), turn]

theorem cash_balance_soldAndAbandoned :
    ∃ t, manager.run (.small twoWallets {}) soldAndAbandoned = some t ∧
      share (fun _ => true) (receipts t.log) = 1 / 10 ∧
      share (fun _ => true) (outlays (turns (.small twoWallets {}) soldAndAbandoned)) +
        share (fun _ => true) (toldPnl t.log) + share (fun _ => true) t.actor.openNet +
        share (fun _ => true) (writeOffs (turns (.small twoWallets {}) soldAndAbandoned)) =
          1 / 10 := by
  have hrun : (manager.run (.small twoWallets {}) soldAndAbandoned).any (fun t =>
      decide (share (fun _ => true) (receipts t.log) = 1 / 10)) = true := by
    decide +kernel
  obtain ⟨t, ht, hreceipts⟩ := (Option.any_eq_true _ _).mp hrun
  have hbalance := cash_balance (System.small_fresh twoWallets {}) (.of_run ht) fun _ => true
  rw [of_decide_eq_true hreceipts] at hbalance
  exact ⟨t, ht, of_decide_eq_true hreceipts, hbalance.symm⟩

end Loggaper
