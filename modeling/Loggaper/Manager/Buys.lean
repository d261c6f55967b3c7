import Loggaper.Manager.Refines

/-!
# Buys: one row per fill, the cap, closed mints

The three promises of the buy side, each on every run under a guard of the desk, and a run of a
small manager that breaks the promise without the guard.

- `buysOnce_of_noRebuy`: no fill overwrites a row, and no order goes to the broker twice at a time.
  `pending_wallet_buys` is filled and emptied but never asked, so a second signal that comes after
  the fan-out and before the result orders the same row again.
- `openMints_le_cap`: the cap on open mints. The gate counts rows and pending mints, and a mint
  between the end of its fan-out and its fill is neither.
- `mintDone_path`: a finished mint stays finished. Only signals ask `closed_mints`, a fill that is
  sold at once closes no mint, and nothing calls back a buy that is already at the broker.
-/

namespace Loggaper

/-! ## A small manager -/

/-- Wallets without sizes of their own. -/
def wallet (id : String) : WalletHandle := ⟨id, id, true, none, none, "PRIVATE_KEY"⟩

/-- The default settings with V4 off and no median over market-cap samples. -/
def smallConfig : SmartBuyConfig := { exitMcapMedianTicks := 1, exitV4 := { enabled := false } }

/-- A fresh manager. -/
def System.small (wallets : WalletRegistry) (limits : StrategyConfig) : System where
  actor := {
    config := smallConfig
    wallets := wallets
    positions := ∅
    pendingMints := ∅
    pendingWalletBuys := ∅
    closedMints := ∅
    poolCache := ∅
    bucketCache := ∅
    lastPrintTime := 0
    curveQuarantineCfg := {}
    curveQuarantine := ∅
    hasRpc := false
    paused := false
    strategy := .new limits 0
    hasDevRanker := false
    hasSmartMoney := false
    lastLiveSnapshotAt := ∅ }
  mailbox := []
  tasks := []
  log := []

theorem System.small_fresh (wallets : WalletRegistry) (limits : StrategyConfig) :
    (System.small wallets limits).Fresh :=
  ⟨rfl, rfl, rfl, rfl, rfl, rfl, rfl⟩

def oneWallet : WalletRegistry := ⟨[wallet "wallet_1"], by simp⟩

def twoWallets : WalletRegistry := ⟨[wallet "wallet_1", wallet "wallet_2"], by decide⟩

/-- A pool with a market cap of 30 SOL. -/
def smallPool (mint : Address) : Pool := ⟨mint, .fromFloatNative 30⟩

def signal (mint : Address) : Event :=
  .post (.initiateBuy (smallPool mint) (1 / 10) .a none [] none)

/-- A turn in which the broker takes what is sold. -/
def soldEnv : TurnEnv := ⟨fun _ => 0, 0, .ok ⟨1 / 10, 1 / 10, none⟩, fun _ => 0⟩

def turn : Event := .turn soldEnv

/-- The broker answers a buy with this many tokens. -/
def filled (i : ℕ) (tokens : ℚ) : Event := .resume i (.bought (.ok ⟨1 / 10, tokens, none, none⟩))

/-- What a run of a small manager comes to. -/
theorem reachable_of_run (wallets : WalletRegistry) (limits : StrategyConfig) (es : List Event)
    (p : System → Bool) (h : (manager.run (.small wallets limits) es).any p = true) :
    ∃ s, manager.Reachable s ∧ p s = true := by
  obtain ⟨s, hs, hp⟩ := (Option.any_eq_true _ _).mp h
  exact ⟨s, ⟨_, es, System.small_fresh wallets limits, hs⟩, hp⟩

theorem reachableUnder_of_run (G : System → Event → Prop) [∀ s e, Decidable (G s e)]
    (wallets : WalletRegistry) (limits : StrategyConfig) (es : List Event) (p : System → Bool)
    (h : (manager.runUnder G (.small wallets limits) es).any p = true) :
    ∃ s, manager.ReachableUnder G s ∧ p s = true := by
  obtain ⟨s, hs, hp⟩ := (Option.any_eq_true _ _).mp h
  exact ⟨s, ⟨_, es, System.small_fresh wallets limits, .of_runUnder hs⟩, hp⟩

/-! ## One row per fill -/

/-- The order whose fill the next turn takes. -/
def System.filledOrder (s : System) : Option BuyOrder :=
  match s.mailbox with
  | .buyCompleted order _ (.ok _) :: _ => some order
  | _ => none

/-- The order that the next turn sends to the broker. -/
def System.issuedOrder (s : System) : Option BuyOrder :=
  match s.mailbox with
  | .executeBuy order :: _ => if s.actor.issuesBuy order then some order else none
  | _ => none

/-- A fill finds no row under its key, and an order that goes to the broker finds no earlier buy of
its row at the broker. -/
structure System.BuysOnce (s : System) : Prop where
  fill : ∀ order ∈ s.filledOrder, order.key ∉ s.actor.positions
  issue : ∀ order ∈ s.issuedOrder, order.key ∉ runningOrders.total s

theorem mem_runningOrders_of_filledOrder {s : System} {order : BuyOrder}
    (h : order ∈ s.filledOrder) : order.key ∈ runningOrders.total s := by
  unfold System.filledOrder at h
  split at h
  · rename_i o pool receipt rest hbox
    cases h
    simp [InFlight.total, hbox, runningOrders]
  · cases h

theorem mem_waitingOrders_of_issuedOrder {s : System} {order : BuyOrder}
    (h : order ∈ s.issuedOrder) : order.key ∈ waitingOrders.total s := by
  unfold System.issuedOrder at h
  split at h
  · rename_i o rest hbox
    split_ifs at h with hissue
    · cases h
      simp [InFlight.total, hbox, waitingOrders]
    · cases h
  · cases h

theorem atMostOne_fresh {s : System} (h : s.Fresh) : s.desk.AtMostOne := by
  intro k
  simp [desk_fresh h, Desk.load, Desk.orders]

/-- **One row per fill.** In every run that accepts no signal while an order of a row it would order
is still out, no fill overwrites a row, and no row has two buys at the broker. -/
theorem buysOnce_of_noRebuy {s : System}
    (h : manager.ReachableUnder (System.Meets Desk.NoRebuy) s) : s.BuysOnce := by
  obtain ⟨s₀, es, hfresh, hpath⟩ := h
  obtain ⟨as, hdesk⟩ := desk_path hpath
  have hone : s.desk.AtMostOne := Desk.atMostOne_path hdesk (atMostOne_fresh hfresh)
  constructor
  · intro order horder hrow
    have hrun : order.key ∈ s.desk.running := mem_runningOrders_of_filledOrder horder
    exact (hone.running hrun).1 (by simpa [System.desk, GateView.toDesk, PositionManagerActor.view])
  · intro order horder hrun
    have hwait : order.key ∈ s.desk.waiting := mem_waitingOrders_of_issuedOrder horder
    exact (hone.running hrun).2 hwait

/-- What is held in a row. -/
def System.held (s : System) (key : PositionKey) : Option ℚ :=
  (AList.lookup key s.actor.positions).map (·.holdings.toFloat)

/-- A second signal on mint 1, after the fan-out of the first and before its result. -/
def secondSignal : List Event :=
  [signal 1, turn, .resume 0 .go, turn, .resume 0 .go, turn, signal 1, turn, .resume 1 .go]

/-- Both buys reach the broker, and the first fill is taken. -/
def secondFill : List Event :=
  secondSignal ++ [turn, filled 1 1000, turn, filled 1 2000]

/-- The second order goes to the broker beside the first, and its fill replaces the row. -/
theorem secondSignal_buys_twice :
    (∃ s, manager.Reachable s ∧ ∃ order ∈ s.issuedOrder, order.key ∈ runningOrders.total s) ∧
      ∃ s t, manager.Reachable s ∧ s.step turn = some t ∧
        ∃ order ∈ s.filledOrder, s.held order.key = some 1000 ∧ t.held order.key = some 2000 := by
  constructor
  · obtain ⟨s, hs, h⟩ := reachable_of_run oneWallet {} secondSignal
      (fun s => s.issuedOrder.any fun o => decide (o.key ∈ runningOrders.total s))
      (by decide +kernel)
    obtain ⟨o, ho, h⟩ := (Option.any_eq_true _ _).mp h
    exact ⟨s, hs, o, ho, of_decide_eq_true h⟩
  · obtain ⟨s, hs, h⟩ := reachable_of_run oneWallet {} secondFill
      (fun s => (s.step turn).any fun t => s.filledOrder.any fun o =>
        s.held o.key == some 1000 && t.held o.key == some 2000)
      (by decide +kernel)
    obtain ⟨t, ht, h⟩ := (Option.any_eq_true _ _).mp h
    obtain ⟨o, ho, h⟩ := (Option.any_eq_true _ _).mp h
    exact ⟨s, t, hs, ht, o, ho, by simpa using h⟩

/-- One signal, up to the turn that takes its fill. -/
def oneFill : List Event :=
  [signal 1, turn, .resume 0 .go, turn, .resume 0 .go, turn, filled 0 1000]

theorem buysOnce_of_noRebuy_oneFill :
    ∃ s : System, (∃ order ∈ s.filledOrder, order.key = ⟨1, "wallet_1"⟩) ∧ s.BuysOnce := by
  obtain ⟨s, hs, h⟩ := reachableUnder_of_run (System.Meets Desk.NoRebuy) oneWallet {} oneFill
    (fun s => s.filledOrder.any fun o => o.key == ⟨1, "wallet_1"⟩) (by decide +kernel)
  obtain ⟨o, ho, h⟩ := (Option.any_eq_true _ _).mp h
  exact ⟨s, ⟨o, ho, by simpa using h⟩, buysOnce_of_noRebuy hs⟩

/-! ## The cap -/

theorem allowsOpen_lt {limits : StrategyConfig} {n : ℕ} (hn : n ≤ limits.maxOpenPositions.toNat)
    (h : limits.allowsOpen n = true) : n < limits.maxOpenPositions.toNat := by
  simp only [StrategyConfig.allowsOpen, decide_eq_true_eq, UInt32.lt_iff_toNat_lt,
    UInt32.toNat_ofNat'] at h
  have hmax := limits.maxOpenPositions.toNat_lt
  rwa [Nat.mod_eq_of_lt (by omega)] at h

/-- **The cap.** In every run whose signals are accepted only while every other mint with an order
out has a row or is pending, the open mints never outnumber the cap. -/
theorem openMints_le_cap {s : System}
    (h : manager.ReachableUnder (System.Meets (Desk.Covered PositionKey.mint)) s) :
    s.actor.openMints.card ≤ s.actor.strategy.cfg.maxOpenPositions.toNat := by
  obtain ⟨s₀, es, hfresh, hpath⟩ := h
  obtain ⟨as, hdesk⟩ := desk_path hpath
  have hstart : s₀.desk.Capped PositionKey.mint s₀.actor.strategy.cfg.maxOpenPositions.toNat := by
    simp [Desk.Capped, Desk.exposure, desk_fresh hfresh, Desk.openMints, Desk.orders]
  have hcapped := Desk.capped_path (fun n hn ha => allowsOpen_lt hn ha) hdesk hstart
  rw [limits_path hpath]
  exact hcapped.openMints

/-- Signals on mints 1 and 2, each after the fan-out of the other, and both fills. -/
def twoMints : List Event :=
  [signal 1, turn, .resume 0 .go, turn, .resume 0 .go, turn, signal 2, turn, .resume 1 .go, turn,
    filled 1 1000, turn, filled 1 1000, turn]

/-- With a cap of one, two mints are open. -/
theorem twoMints_exceed_cap :
    ∃ s, manager.Reachable s ∧
      s.actor.strategy.cfg.maxOpenPositions.toNat < s.actor.openMints.card := by
  obtain ⟨s, hs, h⟩ := reachable_of_run oneWallet { maxOpenPositions := 1 } twoMints
    (fun s => decide (s.actor.strategy.cfg.maxOpenPositions.toNat < s.actor.openMints.card))
    (by decide +kernel)
  exact ⟨s, hs, of_decide_eq_true h⟩

theorem openMints_le_cap_oneFill :
    ∃ s : System, s.actor.openMints = {1} ∧
      s.actor.openMints.card ≤ s.actor.strategy.cfg.maxOpenPositions.toNat := by
  obtain ⟨s, hs, h⟩ := reachableUnder_of_run
    (System.Meets (Desk.Covered PositionKey.mint)) oneWallet { maxOpenPositions := 1 }
    (oneFill ++ [turn]) (fun s => decide (s.actor.openMints = {1})) (by decide +kernel)
  exact ⟨s, of_decide_eq_true h, openMints_le_cap hs⟩

/-! ## Finished mints -/

/-- The mint is in `closed_mints`, or it was bought and all of it has been sold. -/
def System.MintDone (s : System) (mint : Address) : Prop :=
  mint ∈ s.actor.closedMints ∨ (mint ∈ boughtMints s.log ∧ mint ∉ s.actor.openMints)

instance (s : System) (mint : Address) : Decidable (s.MintDone mint) :=
  inferInstanceAs (Decidable (_ ∨ (_ ∧ _)))

theorem settled_fresh {s : System} (h : s.Fresh) : s.desk.Settled PositionKey.mint := by
  intro m hm
  simp [desk_fresh h, Desk.Done] at hm

/-- **Closed mints are not entered again.** In every run that sends no order to the broker for a
finished mint, and finishes no mint while another order of it is at the broker, a finished mint has
no row in any later state. -/
theorem mintDone_path {s t : System} {es : List Event} {mint : Address}
    (hs : manager.ReachableUnder (System.Meets (Desk.NoStraggler PositionKey.mint)) s)
    (h : manager.Path (System.Meets (Desk.NoStraggler PositionKey.mint)) s es t)
    (hmint : s.MintDone mint) : t.MintDone mint ∧ mint ∉ t.actor.openMints := by
  obtain ⟨s₀, es₀, hfresh, hpath⟩ := hs
  obtain ⟨as₀, hdesk₀⟩ := desk_path hpath
  have hsettled := Desk.settled_path hdesk₀ (settled_fresh hfresh)
  obtain ⟨as, hdesk⟩ := desk_path h
  exact Desk.done_path hdesk hsettled hmint

/-- Mint 1 is closed by the operator while the buy of one wallet is at the broker. -/
def closedMint : List Event :=
  [signal 1, turn, .resume 0 .go, turn, .post (.abandonPosition 1 none), turn]

/-- A signal scored at 10 SOL, filled at 100: the fill is sold again at once. -/
def spikedMint : List Event :=
  [.post (.initiateBuy (smallPool 1) (1 / 10) .a none []
      (some ⟨10, 0, 0, 0, 0, 0, 0, 0, "", 0, 0, false⟩)), turn, .resume 0 .go, turn, .resume 0 .go,
    turn, .resume 0 (.bought (.ok ⟨1 / 10, 1000, none, some 100⟩)), turn]

/-- Two runs enter a finished mint again: a late fill on a closed mint, and a second signal after a
fill that was sold at once. -/
theorem finished_mints_reopen :
    (∃ s es t, manager.Reachable s ∧ manager.run s es = some t ∧
        1 ∈ s.actor.closedMints ∧ 1 ∈ t.actor.openMints) ∧
      ∃ s es t, manager.Reachable s ∧ manager.run s es = some t ∧
        1 ∈ boughtMints s.log ∧ 1 ∉ s.actor.openMints ∧ 1 ∈ t.actor.openMints := by
  constructor
  · obtain ⟨s, hs, h⟩ := reachable_of_run oneWallet {} closedMint
      (fun s => decide (1 ∈ s.actor.closedMints) &&
        (manager.run s [filled 1 1000, turn]).any fun t : System => decide (1 ∈ t.actor.openMints))
      (by decide +kernel)
    simp only [Bool.and_eq_true, decide_eq_true_eq, Option.any_eq_true] at h
    obtain ⟨hclosed, t, ht, hopen⟩ := h
    exact ⟨s, _, t, hs, ht, hclosed, hopen⟩
  · obtain ⟨s, hs, h⟩ := reachable_of_run oneWallet {} spikedMint
      (fun s => decide (1 ∈ boughtMints s.log ∧ 1 ∉ s.actor.openMints) &&
        (manager.run s (oneFill ++ [turn])).any fun t : System => decide (1 ∈ t.actor.openMints))
      (by decide +kernel)
    simp only [Bool.and_eq_true, decide_eq_true_eq, Option.any_eq_true] at h
    obtain ⟨⟨hbought, hsold⟩, t, ht, hopen⟩ := h
    exact ⟨s, _, t, hs, ht, hbought, hsold, hopen⟩

theorem mintDone_path_spikedMint :
    ∃ s t : System, (1 ∈ boughtMints s.log ∧ 1 ∉ s.actor.openMints) ∧
      t.MintDone 1 ∧ 1 ∉ t.actor.openMints := by
  obtain ⟨s, hs, h⟩ := reachableUnder_of_run
    (System.Meets (Desk.NoStraggler PositionKey.mint)) oneWallet {} spikedMint
    (fun s => decide (1 ∈ boughtMints s.log ∧ 1 ∉ s.actor.openMints) &&
      (manager.runUnder (System.Meets (Desk.NoStraggler PositionKey.mint)) s
        [signal 1, turn]).isSome)
    (by decide +kernel)
  simp only [Bool.and_eq_true, decide_eq_true_eq, Option.isSome_iff_exists] at h
  obtain ⟨hdone, t, ht⟩ := h
  exact ⟨s, t, hdone, mintDone_path hs (.of_runUnder ht) (.inr hdone)⟩

end Loggaper
