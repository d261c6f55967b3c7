import Loggaper.Manager.Buys
import Loggaper.Pipeline.ScoreBuy

/-!
# The operator's cap on a buy

The cap cuts the amount of a signal where the signal is sized. Each wallet then puts its own
size in the place of that amount, and no cap is applied to it.

Main result: `capKept_iff`, the wallets for which every buy of a signal stays within the cap.
-/

namespace Loggaper

/-- The orders that a task still has to send. -/
def Task.orders : Task → List BuyOrder
  | .fanOut left => left.filterMap fun
    | .executeBuy order => some order
    | _ => none
  | _ => []

theorem Task.orders_of_isQuiet {t : Task} (h : t.isQuiet = true) : t.orders = [] := by
  cases t with
  | fanOut left => cases h
  | _ => rfl

/-- The size that the wallet buys for this tier whatever the signal says. -/
def WalletHandle.ownSize (w : WalletHandle) (tier : Tier) : Option ℚ :=
  match w.tierSize with
  | some ts =>
    match tier with
    | .aPlus => some ts.aPlusSol
    | .a => some ts.aSol
    | .b => some ts.bSol
    | .skip => none
  | none => w.sizeSol

theorem WalletHandle.amountForSignal_eq (w : WalletHandle) (signalSol : ℚ) (tier : Tier) :
    w.amountForSignal signalSol tier = (w.ownSize tier).getD signalSol := by
  unfold amountForSignal ownSize
  cases w.tierSize with
  | none => rfl
  | some ts => cases tier <;> rfl

namespace PositionManagerActor

variable (m : PositionManagerActor) (env : TurnEnv)

/-- The orders of the signal that the pipeline sends, when it sends one. -/
def signalOrders (msg : Option PositionMessage) : List BuyOrder :=
  msg.elim [] fun msg => (m.handle env msg).spawned.flatMap Task.orders

theorem orders_fanOutMessages (pool : Pool) (amountSol : ℚ) (tier : Tier) (dev : Option Address)
    (early : List Address) (snap : Option LearningTradeSnapshot) :
    (Task.fanOut (m.fanOutMessages pool amountSol tier dev early snap)).orders =
      m.wallets.enabledWallets.map fun w =>
        ⟨pool.mint, w.id, w.amountForSignal amountSol tier, dev, early, snap⟩ := by
  simp only [Task.orders, fanOutMessages, List.filterMap_append, List.filterMap_map]
  simp [List.filterMap_eq_map']

/-- An accepted signal orders once for each enabled wallet, any other signal orders nothing. -/
theorem signalOrders_initiateBuy (pool : Pool) (amountSol : ℚ) (tier : Tier)
    (dev : Option Address) (early : List Address) (snap : Option LearningTradeSnapshot) :
    m.signalOrders env (some (.initiateBuy pool amountSol tier dev early snap)) =
      if m.acceptsSignal env pool.mint then
        m.wallets.enabledWallets.map fun w =>
          ⟨pool.mint, w.id, w.amountForSignal amountSol tier, dev, early, snap⟩
      else [] := by
  show (m.initiateBuy env pool amountSol tier dev early snap).spawned.flatMap Task.orders = _
  split_ifs with h
  · obtain ⟨-, hspawned, -⟩ := m.initiateBuy_accepted amountSol tier dev early snap h
    rw [hspawned, List.flatMap_singleton, orders_fanOutMessages]
  · have hquiet : Quiet (m.initiateBuy env pool amountSol tier dev early snap) m.view :=
      m.initiateBuy_dropped (Bool.eq_false_iff.mpr h)
    rw [List.flatMap_eq_nil_iff]
    intro t ht
    exact Task.orders_of_isQuiet (hquiet.spawned t ht)

/-- Every buy that a scored signal leads to is at most the operator's cap. -/
def CapKept (size : SizeConfig) (operatorCap : ℚ) (pool : Pool) (tier : Tier) (dev : Address)
    (buyers : List Address) (snap : LearningTradeSnapshot) : Prop :=
  ∀ order ∈ m.signalOrders env (dispatchBuy size operatorCap pool tier dev buyers snap),
    order.amountSol ≤ operatorCap

/-- **When the cap is kept.** The signal is sized to nothing, or the manager drops it, or every
enabled wallet that has a size of its own for the tier has one within the cap. -/
theorem capKept_iff (size : SizeConfig) (operatorCap : ℚ) (pool : Pool) (tier : Tier)
    (dev : Address) (buyers : List Address) (snap : LearningTradeSnapshot) :
    m.CapKept env size operatorCap pool tier dev buyers snap ↔
      min (size.recommendedSizeSol tier) operatorCap ≤ f64Epsilon ∨
        m.acceptsSignal env pool.mint = false ∨
        ∀ w ∈ m.wallets.enabledWallets, ∀ own ∈ w.ownSize tier, own ≤ operatorCap := by
  unfold CapKept
  by_cases hzero : min (size.recommendedSizeSol tier) operatorCap ≤ f64Epsilon
  · have hnone : dispatchBuy size operatorCap pool tier dev buyers snap = none :=
      if_pos (max_le hzero f64Epsilon_pos.le)
    simp [hnone, signalOrders, hzero]
  · obtain ⟨msg, hmsg⟩ : ∃ msg, dispatchBuy size operatorCap pool tier dev buyers snap = some msg :=
      ⟨_, if_neg fun h => hzero ((le_max_left _ _).trans h)⟩
    obtain ⟨amountSol, hle, rfl⟩ := dispatchBuy_eq_some hmsg
    rw [hmsg, signalOrders_initiateBuy]
    by_cases haccept : m.acceptsSignal env pool.mint = true
    · simp only [haccept, if_true, hzero, Bool.true_eq_false, false_or, List.forall_mem_map,
        WalletHandle.amountForSignal_eq]
      refine forall₂_congr fun w _ => ?_
      -- a wallet without a size of its own buys the signal's amount
      cases w.ownSize tier with
      | none => simp [hle]
      | some own => simp
    · simp [haccept]

end PositionManagerActor

/-- The wallets of the shipped configuration: the copy wallet has tier sizes of its own. -/
def copyWallets : WalletRegistry where
  ordered := [wallet "wallet_1", { wallet "wallet_2" with tierSize := some ⟨1 / 2, 3 / 5, 1 / 5⟩ }]
  ids_nodup := by decide

/-- **A buy above the cap.** With the shipped sizes and a cap of 0.4 SOL, an A+ signal makes the
copy wallet buy for 0.6 SOL. -/
theorem cap_exceeded :
    ¬ (System.small copyWallets {}).actor.CapKept soldEnv ⟨2 / 5, 3 / 10, 1 / 5⟩ (2 / 5)
      (smallPool 1) .aPlus 9 [] ⟨30, 0, 0, 0, 0, 40, 4, 90, "APlus", 0, 0, true⟩ := by
  unfold PositionManagerActor.CapKept
  decide +kernel

end Loggaper
