import Loggaper.Autobuy.BrokerMock
import Loggaper.Manager.Cash
import Loggaper.Manager.Outcomes

/-!
# Demo mode

The manager with a demo broker for each wallet. The brokers answer what the manager asks: a buy when
its task comes to it, a sell within the turn, and an abandoned row is forgotten.

Main result: `demo_balance`, the balance of every wallet at every moment of every run.
-/

namespace Loggaper

open Ledger

/-- The sell that a turn asks the broker of a wallet for. -/
def PositionManagerActor.saleAsked (m : PositionManagerActor) :
    PositionMessage → Option (PositionKey × ℚ × Pool)
  | .executeSell key percent _ =>
    match m.wallets.get key.walletId, AList.lookup key m.positions with
    | some _, some pos => some (key, pos.sellQty percent, pos.pool)
    | _, _ => none
  | .buyCompleted order latestPool (.ok receipt) =>
    match detectFillMcapSpike m.config order.learningSnapshot receipt,
      m.wallets.get order.walletId with
    | some _, some _ => some (order.key, receipt.tokensReceived, latestPool)
    | _, _ => none
  | _ => none

/-- Each wallet has its own broker. -/
structure Demo where
  system : System
  brokers : String → MockBroker

namespace Demo

variable (d : Demo)

/-- The sell of the next turn. -/
def asked : Option (PositionKey × ℚ × Pool) := d.system.mailbox.head?.bind d.system.actor.saleAsked

/-- The event, with what the brokers answer to it. -/
def answered : Event → Event
  | .resume i answer =>
    match d.system.tasks[i]? with
    | some (.buy order pool) =>
      .resume i (.bought ((d.brokers order.walletId).buy order.mint order.amountSol pool).1)
    | _ => .resume i answer
  | .turn env =>
    match d.asked with
    | some (key, qty, pool) =>
      .turn { env with sell := ((d.brokers key.walletId).sell key.mint qty pool).1 }
    | none => .turn env
  | e => e

/-- Rows that are dropped without a sell. -/
def forget (brokers : String → MockBroker) (effects : List Effect) : String → MockBroker :=
  effects.foldl (fun brokers e => match e with
    | .forgetPosition key =>
      Function.update brokers key.walletId ((brokers key.walletId).forgetPosition key.mint)
    | _ => brokers) brokers

/-- The brokers after an event. -/
def brokersAfter : Event → String → MockBroker
  | .resume i _ =>
    match d.system.tasks[i]? with
    | some (.buy order pool) =>
      Function.update d.brokers order.walletId
        ((d.brokers order.walletId).buy order.mint order.amountSol pool).2
    | _ => d.brokers
  | .turn env =>
    match d.asked with
    | some (key, qty, pool) =>
      Function.update d.brokers key.walletId ((d.brokers key.walletId).sell key.mint qty pool).2
    | none =>
      d.system.mailbox.head?.elim d.brokers fun msg =>
        forget d.brokers (d.system.actor.handle env msg).effects
  | _ => d.brokers

def step (e : Event) : Option Demo :=
  (d.system.step (d.answered e)).map fun s => ⟨s, d.brokersAfter e⟩

end Demo

/-- The manager in demo mode. -/
def demo : Machine Demo Event where
  init d := d.system.Fresh
  step := Demo.step

/-- The turns of a run in demo mode. -/
def demoTurns (d : Demo) (es : List Event) : List Turn :=
  demo.trace (fun d e => d.system.turnOf (d.answered e)) d es

/-- Fills that have left the wallet and wait for their turn. -/
def waitingFills (s : System) : Ledger PositionKey ℚ :=
  s.mailbox.flatMap PositionManagerActor.outlay

/-! ## What a turn sells -/

theorem receipts_eq_nil {l : List Effect} (h : ∀ key, salesOf key l = []) : receipts l = [] := by
  rw [receipts, List.filterMap_eq_nil_iff]
  intro e he
  split
  · rename_i key _ _ r
    have hmem : Effect.brokerSell key _ _ (.ok r) ∈ salesOf key l :=
      List.mem_filter.mpr ⟨he, by simp [Effect.isSale, Effect.key]⟩
    rw [h key] at hmem
    cases hmem
  · rfl

namespace PositionManagerActor

variable (m : PositionManagerActor) (env : TurnEnv)

/-- The receipt of the sell that is asked for. -/
def receiptOf (msg : PositionMessage) : Ledger PositionKey ℚ :=
  (m.saleAsked msg).elim [] fun ask =>
    env.sell.toOption.elim [] fun r => [(ask.1, r.solReceivedActual)]

theorem receipts_recordClose (key : PositionKey) (reason : SellReason) (pos : Position)
    (r : SellReceipt) :
    receipts (m.recordClose env key reason pos (pos.totalReturned + r.solReceivedActual)).effects =
      [] := by
  obtain ⟨entry, heffects⟩ := m.effects_recordClose env key reason pos r
  have hnotes : receipts (m.rowClosing key pos r).notes = [] := by
    rw [receipts, List.filterMap_eq_nil_iff]
    intro e he
    rw [← told_notes] at he
    have hnote : e.isNote = true := (List.mem_filter.mp he).2
    cases e with
    | brokerSell => cases hnote
    | _ => rfl
  rw [heffects, receipts_append, hnotes]
  rfl

theorem receipts_executeSell (key : PositionKey) (percent : ℚ) (reason : SellReason) :
    receipts (m.executeSell env key percent reason).effects =
      m.receiptOf env (.executeSell key percent reason) := by
  cases hfind : m.findsRow key with
  | false =>
    have hnone : m.saleAsked (.executeSell key percent reason) = none := by
      rw [saleAsked]
      split
      · rename_i w pos hw hpos
        simp [findsRow, hw, KeyedMap.mem_iff_lookup.mpr ⟨pos, hpos⟩] at hfind
      · rfl
    rw [executeSell_idle hfind, receiptOf, hnone]
    rfl
  | true =>
    obtain ⟨pos, hpos⟩ := exists_row_of_findsRow hfind
    have hwallet : (m.wallets.get key.walletId).isSome = true := by
      rw [findsRow, Bool.and_eq_true] at hfind
      exact hfind.1
    obtain ⟨w, hw⟩ := Option.isSome_iff_exists.mp hwallet
    have hasked : m.saleAsked (.executeSell key percent reason) =
        some (key, pos.sellQty percent, pos.pool) := by
      rw [saleAsked, hw, hpos]
    rw [receiptOf, hasked]
    cases hsell : env.sell with
    | error e =>
      rw [executeSell_error hfind hpos hsell]
      rfl
    | ok r =>
      by_cases hpct : percent < 100
      · rw [executeSell_part hfind hpos hsell hpct]
        rfl
      · rw [executeSell_full hfind hpos hsell (not_lt.mp hpct), Outcome.after, receipts_append,
          receipts_recordClose]
        rfl

theorem receipts_buyCompleted (order : BuyOrder) (pool : Pool) (receipt : BuyReceipt) :
    receipts (m.applyBuyResult env order pool (.ok receipt)).effects =
      m.receiptOf env (.buyCompleted order pool (.ok receipt)) := by
  have hspike : detectFillMcapSpike (m.forgetWalletBuy order.key).config order.learningSnapshot
      receipt = detectFillMcapSpike m.config order.learningSnapshot receipt := rfl
  have hwallet : (m.forgetWalletBuy order.key).wallets.get order.walletId =
      m.wallets.get order.walletId := rfl
  simp only [applyBuyResult, receiptOf, saleAsked, hspike, hwallet]
  cases detectFillMcapSpike m.config order.learningSnapshot receipt with
  | none => rfl
  | some spike =>
    cases m.wallets.get order.walletId with
    | none => rfl
    | some w => cases env.sell <;> rfl

/-- **One sell.** The confirmed sell of a turn is the one that it asks for. -/
theorem receipts_handle (msg : PositionMessage) :
    receipts (m.handle env msg).effects = m.receiptOf env msg := by
  have hquiet (hfill : ∀ order pool r, msg ≠ .buyCompleted order pool (.ok r))
      (hsell : ∀ k percent reason, msg ≠ .executeSell k percent reason)
      (habandon : ∀ mint walletId, msg ≠ .abandonPosition mint walletId)
      (hasked : m.saleAsked msg = none) :
      receipts (m.handle env msg).effects = m.receiptOf env msg := by
    rw [receiptOf, hasked]
    refine receipts_eq_nil fun key => ?_
    exact (quiet_of_rowTurn
      (m.rowTurn_handle key env msg fun order pool r h => absurd h (hfill order pool r))
      hsell habandon).2
  cases msg with
  | buyCompleted order pool result =>
    cases result with
    | error e => exact hquiet (by simp) (by simp) (by simp) rfl
    | ok receipt => exact m.receipts_buyCompleted env order pool receipt
  | executeSell key percent reason => exact m.receipts_executeSell env key percent reason
  | abandonPosition mint walletId =>
    refine receipts_eq_nil fun key => salesOf_eq_nil fun e he => .inl ?_
    obtain ⟨k, -, rfl⟩ := List.mem_map.mp he
    rfl
  | _ => exact hquiet (by simp) (by simp) (by simp) rfl

end PositionManagerActor

/-! ## What is on its way -/

/-- No task brings a fill by itself. -/
def System.BuysOnly (s : System) : Prop :=
  ∀ task ∈ s.tasks, ∀ msg ∈ task.pending, PositionManagerActor.outlay msg = []

theorem buysOnly_fresh {s : System} (h : s.Fresh) : s.BuysOnly := by
  intro task htask
  rw [h.tasks] at htask
  cases htask

theorem outlay_external {msg : PositionMessage} (h : msg.external = true) :
    PositionManagerActor.outlay msg = [] := by
  cases msg with
  | buyCompleted => cases h
  | _ => rfl

/-- Only a buy sends a fill. -/
theorem outlay_resume {task : Task} {answer : Answer} {left : Option Task} {msg : PositionMessage}
    (hpending : ∀ msg ∈ task.pending, PositionManagerActor.outlay msg = [])
    (hbuy : ∀ order pool, task ≠ .buy order pool) (h : task.resume answer = some (left, msg)) :
    PositionManagerActor.outlay msg = [] := by
  unfold Task.resume at h
  split at h
  · cases h
    exact hpending _ List.mem_cons_self
  · exact absurd rfl (hbuy _ _)
  · cases h
    rfl
  · cases h
    rfl
  · cases h
    rfl
  · cases h

theorem pending_resume {task : Task} {answer : Answer} {left : Option Task} {msg : PositionMessage}
    (h : task.resume answer = some (left, msg)) :
    ∀ t ∈ left, ∀ msg ∈ t.pending, msg ∈ task.pending := by
  unfold Task.resume at h
  split at h
  · rename_i m ms
    cases h
    intro t ht m' hm'
    split_ifs at ht
    · cases ht
    · cases ht
      exact List.mem_cons_of_mem _ hm'
  all_goals
    cases h
    try exact fun t ht => by cases ht

theorem pending_spawned {m : PositionManagerActor} {env : TurnEnv} {msg : PositionMessage} :
    ∀ task ∈ (m.handle env msg).spawned, ∀ msg ∈ task.pending,
      PositionManagerActor.outlay msg = [] := by
  intro task htask msg' hmsg'
  rcases m.spawned_cases htask with
    hquiet | ⟨order, pool, rfl, rfl⟩ | ⟨pool, amountSol, tier, dev, early, snap, rfl, rfl⟩
  · cases task with
    | fanOut left => cases hquiet
    | _ => simp [Task.pending] at hmsg'
  · simp [Task.pending] at hmsg'
  · simp only [Task.pending, PositionManagerActor.fanOutMessages, List.mem_append, List.mem_map,
      List.mem_singleton] at hmsg'
    rcases hmsg' with ⟨w, -, rfl⟩ | rfl
    · rfl
    · rfl

theorem System.BuysOnly.step {s t : System} {e : Event} (h : s.BuysOnly)
    (hstep : s.step e = some t) : t.BuysOnly := by
  cases e with
  | post msg =>
    obtain ⟨-, rfl⟩ := System.step_post hstep
    exact h
  | patchWallets entries =>
    cases hstep
    exact h
  | resume i answer =>
    obtain ⟨task, left, msg, htask, hres, rfl⟩ := System.step_resume hstep
    intro task' htask' msg' hmsg'
    rcases List.mem_append.mp htask' with hleft | hrest
    · exact h task (List.mem_of_getElem? htask) msg'
        (pending_resume hres task' (Option.mem_toList.mp hleft) msg' hmsg')
    · exact h task' (List.mem_of_mem_eraseIdx hrest) msg' hmsg'
  | turn env =>
    obtain ⟨msg, rest, -, rfl⟩ := System.step_turn hstep
    intro task htask
    rcases List.mem_append.mp htask with hold | hnew
    · exact h task hold
    · exact pending_spawned task hnew

/-! ## The balance of a wallet -/

/-- The rows of a wallet. -/
def ofWallet (walletId : String) (key : PositionKey) : Bool := key.walletId == walletId

theorem share_ofWallet_singleton (w : String) (key : PositionKey) (x : ℚ) :
    share (ofWallet w) [(key, x)] = if w = key.walletId then x else 0 := by
  by_cases h : w = key.walletId
  · simp [ofWallet, h]
  · simp [ofWallet, h, Ne.symm h]

namespace Demo

theorem balance_update (brokers : String → MockBroker) (w w' : String) (b : MockBroker) :
    (Function.update brokers w' b w).balance =
      (brokers w).balance + if w = w' then b.balance - (brokers w').balance else 0 := by
  by_cases h : w = w'
  · subst h
    simp
  · simp [h]

theorem balance_forget (brokers : String → MockBroker) (effects : List Effect) (w : String) :
    (forget brokers effects w).balance = (brokers w).balance := by
  induction effects generalizing brokers with
  | nil => rfl
  | cons e effects ih =>
    refine (ih _).trans ?_
    cases e with
    | forgetPosition key =>
      rw [balance_update]
      simp [MockBroker.forgetPosition]
    | _ => rfl

/-- The broker of a wallet after some turns: `start`, with what the sells have brought in and
without what the buys have taken. -/
def Pays (w : String) (start : ℚ) (d : Demo) (us : List Turn) : Prop :=
  (d.brokers w).balance + share (ofWallet w) (waitingFills d.system) +
    share (ofWallet w) (outlays us) = start + share (ofWallet w) (receipts d.system.log)

variable {d d' : Demo} {w : String} {start : ℚ} {us : List Turn} {e : Event}

theorem Pays.resume {i : ℕ} {answer : Answer} (h : Pays w start d us)
    (hbuys : d.system.BuysOnly) (hstep : d.step (.resume i answer) = some d') :
    Pays w start d' us := by
  obtain ⟨s, hs, rfl⟩ := Option.map_eq_some_iff.mp hstep
  unfold Pays at h ⊢
  by_cases hbuy : ∃ order pool, d.system.tasks[i]? = some (.buy order pool)
  · obtain ⟨order, pool, htask⟩ := hbuy
    simp only [answered, htask] at hs
    obtain ⟨task, left, msg, htask', hres, rfl⟩ := System.step_resume hs
    rw [htask, Option.some.injEq] at htask'
    subst htask'
    cases hres
    simp only [brokersAfter, htask, waitingFills, List.flatMap_append, List.flatMap_singleton,
      share_append, balance_update] at h ⊢
    have hpaid := (d.brokers order.walletId).balance_buy order.mint order.amountSol pool
    cases hbought : ((d.brokers order.walletId).buy order.mint order.amountSol pool).1 with
    | error err =>
      rw [hbought] at hpaid
      simp only [PositionManagerActor.outlay, share_nil]
      split_ifs
      · simp only [Except.toOption, Option.elim_none] at hpaid
        linarith
      · linarith
    | ok receipt =>
      rw [hbought] at hpaid
      have hwallet : order.key.walletId = order.walletId := rfl
      simp only [PositionManagerActor.outlay, share_ofWallet_singleton, hwallet]
      split_ifs
      · simp only [Except.toOption, Option.elim_some] at hpaid
        linarith
      · linarith
  · have hanswered : d.answered (.resume i answer) = .resume i answer := by
      simp only [answered]
      split
      · rename_i order pool htask
        exact absurd ⟨order, pool, htask⟩ hbuy
      · rfl
    have hbrokers : d.brokersAfter (.resume i answer) = d.brokers := by
      simp only [brokersAfter]
      split
      · rename_i order pool htask
        exact absurd ⟨order, pool, htask⟩ hbuy
      · rfl
    rw [hanswered] at hs
    obtain ⟨task, left, msg, htask, hres, rfl⟩ := System.step_resume hs
    have hmsg : PositionManagerActor.outlay msg = [] :=
      outlay_resume (hbuys task (List.mem_of_getElem? htask))
        (fun order pool h => hbuy ⟨order, pool, h ▸ htask⟩) hres
    simp only [hbrokers, waitingFills, List.flatMap_append, List.flatMap_singleton, hmsg,
      List.append_nil]
    exact h

theorem Pays.turn {env : TurnEnv} (h : Pays w start d us)
    (hstep : d.step (.turn env) = some d') :
    Pays w start d' (us ++ (d.system.turnOf (d.answered (.turn env))).toList) := by
  obtain ⟨s, hs, rfl⟩ := Option.map_eq_some_iff.mp hstep
  unfold Pays at h ⊢
  have hmoved (env' : TurnEnv) (msg : PositionMessage) (rest : List PositionMessage)
      (hbox : d.system.mailbox = msg :: rest) :
      share (ofWallet w) (rest.flatMap PositionManagerActor.outlay) +
          share (ofWallet w) (outlays (us ++ (d.system.turnOf (.turn env')).toList)) =
        share (ofWallet w) (waitingFills d.system) + share (ofWallet w) (outlays us) := by
    simp only [System.turnOf, waitingFills, hbox, List.head?_cons, Option.map_some,
      Option.toList_some, outlays, List.flatMap_append, List.flatMap_nil, List.flatMap_cons,
      share_append, share_nil]
    ring
  cases hasked : d.asked with
  | none =>
    have hanswered : d.answered (.turn env) = .turn env := by
      rw [answered, hasked]
    rw [hanswered] at hs ⊢
    obtain ⟨msg, rest, hbox, rfl⟩ := System.step_turn hs
    have hnone : d.system.actor.saleAsked msg = none := by
      rwa [asked, hbox, List.head?_cons, Option.bind_some] at hasked
    have hreceipts : receipts (d.system.actor.handle env msg).effects = [] := by
      rw [PositionManagerActor.receipts_handle, PositionManagerActor.receiptOf, hnone]
      rfl
    have hbalance : (d.brokersAfter (.turn env) w).balance = (d.brokers w).balance := by
      rw [brokersAfter, hasked, hbox]
      exact balance_forget d.brokers _ w
    have hwaiting := hmoved env msg rest hbox
    simp only [waitingFills, receipts_append, hreceipts, List.append_nil, hbalance] at h hwaiting ⊢
    linarith
  | some ask =>
    obtain ⟨key, qty, pool⟩ := ask
    have hanswered : d.answered (.turn env) =
        .turn { env with sell := ((d.brokers key.walletId).sell key.mint qty pool).1 } := by
      rw [answered, hasked]
    rw [hanswered] at hs ⊢
    obtain ⟨msg, rest, hbox, rfl⟩ := System.step_turn hs
    have hsale : d.system.actor.saleAsked msg = some (key, qty, pool) := by
      rwa [asked, hbox, List.head?_cons, Option.bind_some] at hasked
    have hsold := (d.brokers key.walletId).balance_sell key.mint qty pool
    have hbrokers : d.brokersAfter (.turn env) = Function.update d.brokers key.walletId
        ((d.brokers key.walletId).sell key.mint qty pool).2 := by
      rw [brokersAfter, hasked]
    have hreceived : share (ofWallet w) (receipts (d.system.actor.handle
        { env with sell := ((d.brokers key.walletId).sell key.mint qty pool).1 } msg).effects) =
        if w = key.walletId then
          ((d.brokers key.walletId).sell key.mint qty pool).1.toOption.elim 0 (·.solReceivedActual)
        else 0 := by
      rw [PositionManagerActor.receipts_handle, PositionManagerActor.receiptOf, hsale]
      cases ((d.brokers key.walletId).sell key.mint qty pool).1 with
      | error err => exact (ite_self 0).symm
      | ok r => exact share_ofWallet_singleton w key _
    have hwaiting := hmoved { env with
      sell := ((d.brokers key.walletId).sell key.mint qty pool).1 } msg rest hbox
    simp only [waitingFills, receipts_append, share_append, hreceived, hbrokers,
      balance_update] at h hwaiting ⊢
    split_ifs
    · linarith
    · linarith

theorem Pays.step (h : Pays w start d us) (hbuys : d.system.BuysOnly)
    (hstep : d.step e = some d') :
    Pays w start d' (us ++ (d.system.turnOf (d.answered e)).toList) := by
  cases e with
  | post msg =>
    obtain ⟨s, hs, rfl⟩ := Option.map_eq_some_iff.mp hstep
    obtain ⟨hexternal, rfl⟩ := System.step_post hs
    have hwaiting : waitingFills { d.system with mailbox := d.system.mailbox ++ [msg] } =
        waitingFills d.system := by
      simp only [waitingFills, List.flatMap_append, List.flatMap_singleton,
        outlay_external hexternal, List.append_nil]
    have hturn : (d.system.turnOf (d.answered (.post msg))).toList = [] := rfl
    rw [hturn, List.append_nil, Pays, hwaiting]
    exact h
  | patchWallets entries =>
    obtain ⟨s, hs, rfl⟩ := Option.map_eq_some_iff.mp hstep
    cases hs
    have hturn : (d.system.turnOf (d.answered (.patchWallets entries))).toList = [] := rfl
    rw [hturn, List.append_nil]
    exact h
  | resume i answer =>
    have hturn : (d.system.turnOf (d.answered (.resume i answer))).toList = [] := by
      simp only [answered]
      split <;> rfl
    rw [hturn, List.append_nil]
    exact h.resume hbuys hstep
  | turn env => exact h.turn hstep

end Demo

/-- **The balance of a demo wallet.** In every run: what it started with, what the controller was
told of it, and the rows that are open or written off, but for the fills that wait for their
turn. -/
theorem demo_balance {d d' : Demo} {es : List Event} (hinit : demo.init d)
    (h : demo.Path Machine.free d es d') (w : String) :
    (d'.brokers w).balance + share (ofWallet w) (waitingFills d'.system) =
      (d.brokers w).balance + share (ofWallet w) (toldPnl d'.system.log) +
        share (ofWallet w) d'.system.actor.openNet +
        share (ofWallet w) (writeOffs (demoTurns d es)) := by
  have hstart : d.system.BuysOnly ∧ CashBooks d.system [] ∧
      Demo.Pays w (d.brokers w).balance d [] := by
    refine ⟨buysOnly_fresh hinit, cashBooks_fresh hinit, ?_⟩
    rw [Demo.Pays, waitingFills, hinit.mailbox, hinit.log]
    simp [outlays, receipts]
  obtain ⟨-, hbooks, hpays⟩ := h.invariant_trace
    (f := fun u e => u.system.turnOf (u.answered e))
    (I := fun u us => u.system.BuysOnly ∧ CashBooks u.system us ∧
      Demo.Pays w (d.brokers w).balance u us)
    (fun u e v us hu _ hstep => by
      obtain ⟨s, hs, rfl⟩ := Option.map_eq_some_iff.mp hstep
      exact ⟨hu.1.step hs, hu.2.1.step hs, hu.2.2.step hu.1 hstep⟩)
    hstart
  rw [List.nil_append] at hbooks hpays
  have hcash := hbooks.share (ofWallet w)
  rw [Demo.Pays] at hpays
  rw [demoTurns]
  linarith

/-- Two demo wallets, of which the second cannot pay for a buy. -/
def Demo.small : Demo :=
  ⟨.small twoWallets {}, fun w => .new (if w = "wallet_1" then 1 else 1 / 20)⟩

/-- Both wallets try to buy, the market cap halves, and the row is sold. -/
def demoSold : List Event :=
  [signal 1, turn, .resume 0 .go, turn, .resume 0 .go, turn, .resume 0 .go, turn, .resume 0 .go,
    turn, .resume 0 .go, turn, .post (.updatePool ⟨1, .fromFloatNative 15⟩), turn, .post .tick,
    turnAt 100, .resume 0 .go, turnAt 100]

theorem demo_balance_demoSold :
    ∃ d, demo.run .small demoSold = some d ∧ (d.brokers "wallet_1").balance = 19 / 20 ∧
      19 / 20 + share (ofWallet "wallet_1") (waitingFills d.system) =
        1 + share (ofWallet "wallet_1") (toldPnl d.system.log) +
          share (ofWallet "wallet_1") d.system.actor.openNet +
          share (ofWallet "wallet_1") (writeOffs (demoTurns .small demoSold)) := by
  have hrun : (demo.run .small demoSold).any (fun d =>
      decide ((d.brokers "wallet_1").balance = 19 / 20)) = true := by
    decide +kernel
  obtain ⟨d, hd, hsold⟩ := (Option.any_eq_true _ _).mp hrun
  have hinit : demo.init .small := System.small_fresh twoWallets {}
  have hbalance := demo_balance hinit (.of_run hd) "wallet_1"
  rw [of_decide_eq_true hsold] at hbalance
  exact ⟨d, hd, of_decide_eq_true hsold, hbalance⟩

end Loggaper
