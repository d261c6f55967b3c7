import Loggaper.Feed.Pump
import Loggaper.Lib.Accounts

/-!
# The traders of a token

A `Trader` is one wallet's account of a token: holdings, cost, sells. A `Swarm` keeps one account
for each wallet, in the order of their first trades. Integers wrap as in the release build; amounts
with different decimals stop the swarm's task (`none`).
-/

namespace Loggaper

inductive TraderType
  | creator
  | sniper
  | regular
  deriving DecidableEq, Repr

structure Trader where
  currentHoldings : Amount
  avgCostBasis : ℕ
  totalSpent : Amount
  realizedPnl : ℤ
  /-- Lamports received from sells. -/
  sellProceedsRaw : ℕ
  sellEventCount : ℕ
  traderType : TraderType
  deriving DecidableEq, Repr

namespace Trader

def empty (traderType : TraderType) (decimals pairedDecimals : ℕ) : Trader where
  currentHoldings := .fromRaw 0 decimals
  avgCostBasis := 0
  totalSpent := .fromRaw 0 pairedDecimals
  realizedPnl := 0
  sellProceedsRaw := 0
  sellEventCount := 0
  traderType := traderType

variable (t : Trader)

/-- `10u128.pow(decimals)`. -/
def scale : ℕ := 10 ^ t.currentHoldings.decimals % 2 ^ 128

def applyBuy (buyFor : ℕ) (received : Amount) : Option Trader := do
  let newHoldings ← t.currentHoldings.add received
  if newHoldings.raw = 0 then some t
  else
    let totalSpent ← t.totalSpent.add (.fromRaw buyFor t.totalSpent.decimals)
    some { t with
      avgCostBasis :=
        (t.avgCostBasis * t.currentHoldings.raw + buyFor * t.scale * t.scale) % 2 ^ 128 /
          newHoldings.raw
      currentHoldings := newHoldings
      totalSpent := totalSpent }

def applySell (sellAmount : Amount) (received : ℕ) : Option Trader := do
  let costOfSold := asI64 (t.avgCostBasis * sellAmount.raw % 2 ^ 128 / t.scale / t.scale : ℕ)
  let currentHoldings ← t.currentHoldings.sub sellAmount
  some { t with
    realizedPnl := asI64 (t.realizedPnl + (asI64 received - costOfSold))
    currentHoldings := currentHoldings
    sellProceedsRaw := min (t.sellProceedsRaw + received) (2 ^ 64 - 1)
    sellEventCount := min (t.sellEventCount + 1) (2 ^ 32 - 1) }

def apply : Offer → Option Trader
  | .buy buyFor received => t.applyBuy buyFor received
  | .sell sellAmount received => t.applySell sellAmount received

end Trader

structure Swarm where
  traders : List (Address × Trader)
  decimals : ℕ
  decimalsQuote : ℕ
  deriving DecidableEq, Repr

namespace Swarm

def new (decimals decimalsQuote : ℕ) : Swarm := ⟨[], decimals, decimalsQuote⟩

/-- The first row of the address takes the offer; without one, a new row does. -/
def updateRows (fresh : Trader) (address : Address) (offer : Offer) :
    List (Address × Trader) → Option (List (Address × Trader))
  | [] => do
    let trader ← fresh.apply offer
    some [(address, trader)]
  | row :: rows =>
    if row.1 = address then do
      let trader ← row.2.apply offer
      some ((row.1, trader) :: rows)
    else do
      let rows ← updateRows fresh address offer rows
      some (row :: rows)

variable (s : Swarm)

def update (address : Address) (offer : Offer) (traderType : TraderType) : Option Swarm := do
  let traders ←
    updateRows (.empty traderType s.decimals s.decimalsQuote) address offer s.traders
  some { s with traders := traders }

/-- The answer to `GetTradersByType`. -/
def tradersByType (traderType : TraderType) : List (Address × Trader) :=
  s.traders.filter fun row => row.2.traderType == traderType

end Swarm

/-! ## What an offer does to an account -/

/-- The offer of a trade event. -/
def TradeEvent.offer (e : TradeEvent) : Offer := e.toTradeAction.toOffer

namespace Trader

/-- An account of a pump token: the decimals that every offer has, amounts of 64 bits, and sells
that are counted in 32. -/
structure Tidy (t : Trader) : Prop where
  decimals : t.currentHoldings.decimals = precision
  paired : t.totalSpent.decimals = 9
  holdings_lt : t.currentHoldings.raw < 2 ^ 64
  spent_lt : t.totalSpent.raw < 2 ^ 64
  proceeds_le : t.sellProceedsRaw ≤ 2 ^ 64 - 1
  sells_le : t.sellEventCount ≤ 2 ^ 32 - 1

theorem empty_tidy (traderType : TraderType) : (empty traderType precision 9).Tidy :=
  ⟨rfl, rfl, Nat.two_pow_pos _, Nat.two_pow_pos _, Nat.zero_le _, Nat.zero_le _⟩

/-- The account after a trade; the decimals of a tidy one fit. -/
def after (e : TradeEvent) (t : Trader) : Trader := (t.apply e.offer).getD t

variable {t : Trader} {e : TradeEvent}

/-- A buy that leaves nothing is not entered. -/
theorem Tidy.apply_buy_zero (h : t.Tidy) (hbuy : e.isBuy = true)
    (hzero : (t.currentHoldings.raw + e.tokenAmount.toNat) % 2 ^ 64 = 0) :
    t.apply e.offer = some t := by
  rw [TradeEvent.offer, TradeEvent.toOffer_eq, if_pos hbuy, apply, applyBuy,
    Amount.add_fromRaw h.decimals]
  exact if_pos hzero

theorem Tidy.apply_buy (h : t.Tidy) (hbuy : e.isBuy = true)
    (hpos : (t.currentHoldings.raw + e.tokenAmount.toNat) % 2 ^ 64 ≠ 0) :
    ∃ cost, t.apply e.offer = some { t with
      avgCostBasis := cost
      currentHoldings := ⟨(t.currentHoldings.raw + e.tokenAmount.toNat) % 2 ^ 64, precision⟩
      totalSpent := ⟨(t.totalSpent.raw + e.solAmount.toNat) % 2 ^ 64, 9⟩ } := by
  rw [TradeEvent.offer, TradeEvent.toOffer_eq, if_pos hbuy, apply, applyBuy,
    Amount.add_fromRaw h.decimals, Amount.add_fromRaw (d := t.totalSpent.decimals) rfl, h.paired]
  exact ⟨_, if_neg hpos⟩

theorem Tidy.apply_sell (h : t.Tidy) (hsell : e.isBuy = false) :
    ∃ pnl, t.apply e.offer = some { t with
      realizedPnl := pnl
      currentHoldings :=
        ⟨(t.currentHoldings.raw + (2 ^ 64 - e.tokenAmount.toNat)) % 2 ^ 64, precision⟩
      sellProceedsRaw := min (t.sellProceedsRaw + e.solAmount.toNat) (2 ^ 64 - 1)
      sellEventCount := min (t.sellEventCount + 1) (2 ^ 32 - 1) } := by
  rw [TradeEvent.offer, TradeEvent.toOffer_eq, if_neg (by simp [hsell]), apply, applySell,
    Amount.sub_fromRaw h.decimals]
  exact ⟨_, rfl⟩

/-- The buy leaves something, so it is entered. -/
def entersBuy (t : Trader) (e : TradeEvent) : Bool :=
  e.isBuy && (t.currentHoldings.raw + e.tokenAmount.toNat) % 2 ^ 64 != 0

/-- **The fields of an account that the rest of the bot reads, after a trade.** -/
theorem Tidy.after_spec (h : t.Tidy) (e : TradeEvent) :
    t.apply e.offer = some (t.after e) ∧ (t.after e).Tidy ∧
      (t.after e).traderType = t.traderType ∧
      (t.after e).currentHoldings.raw =
        (if e.isBuy then
          if t.entersBuy e then (t.currentHoldings.raw + e.tokenAmount.toNat) % 2 ^ 64
          else t.currentHoldings.raw
        else (t.currentHoldings.raw + (2 ^ 64 - e.tokenAmount.toNat)) % 2 ^ 64) ∧
      (t.after e).totalSpent.raw =
        (if t.entersBuy e then (t.totalSpent.raw + e.solAmount.toNat) % 2 ^ 64
        else t.totalSpent.raw) ∧
      (t.after e).sellProceedsRaw =
        (if e.isBuy then t.sellProceedsRaw
        else min (t.sellProceedsRaw + e.solAmount.toNat) (2 ^ 64 - 1)) ∧
      (t.after e).sellEventCount =
        (if e.isBuy then t.sellEventCount else min (t.sellEventCount + 1) (2 ^ 32 - 1)) := by
  cases hside : e.isBuy with
  | true =>
    by_cases hzero : (t.currentHoldings.raw + e.tokenAmount.toNat) % 2 ^ 64 = 0
    · have happly := h.apply_buy_zero hside hzero
      have hafter : t.after e = t := by rw [after, happly]; rfl
      have henters : t.entersBuy e = false := by rw [entersBuy, hzero, hside]; rfl
      rw [hafter, henters]
      exact ⟨happly, h, rfl, rfl, rfl, rfl, rfl⟩
    · obtain ⟨cost, happly⟩ := h.apply_buy hside hzero
      have henters : t.entersBuy e = true := by
        rw [entersBuy, hside, Bool.true_and, bne_iff_ne]
        exact hzero
      rw [henters, after, happly]
      exact ⟨rfl, ⟨rfl, rfl, Nat.mod_lt _ (by norm_num), Nat.mod_lt _ (by norm_num), h.proceeds_le,
        h.sells_le⟩, rfl, rfl, rfl, rfl, rfl⟩
  | false =>
    obtain ⟨pnl, happly⟩ := h.apply_sell hside
    have henters : t.entersBuy e = false := by simp [entersBuy, hside]
    rw [henters, after, happly]
    exact ⟨rfl, ⟨rfl, h.paired, Nat.mod_lt _ (by norm_num), h.spent_lt, Nat.min_le_right _ _,
      Nat.min_le_right _ _⟩, rfl, rfl, rfl, rfl, rfl⟩

end Trader

namespace Swarm

/-- The accounts of a pump token, one for each address. -/
structure Tidy (s : Swarm) : Prop where
  decimals : s.decimals = precision
  quote : s.decimalsQuote = 9
  addresses : (s.traders.map Prod.fst).Nodup
  rows : ∀ row ∈ s.traders, row.2.Tidy

theorem new_tidy : (new precision 9).Tidy := ⟨rfl, rfl, List.nodup_nil, by simp [new]⟩

theorem updateRows_eq_upsert {fresh : Trader} {rows : List (Address × Trader)} {e : TradeEvent}
    (hfresh : fresh.Tidy) (hrows : ∀ row ∈ rows, row.2.Tidy) (address : Address) :
    updateRows fresh address e.offer rows = some (upsert address (Trader.after e) fresh rows) := by
  induction rows with
  | nil =>
    rw [updateRows, (hfresh.after_spec e).1]
    rfl
  | cons row rows ih =>
    obtain ⟨a, t⟩ := row
    obtain ⟨ht, hrest⟩ := List.forall_mem_cons.mp hrows
    by_cases h : a = address
    · subst h
      rw [updateRows, if_pos rfl, (ht.after_spec e).1, upsert_cons_self]
      rfl
    · rw [updateRows, if_neg h, ih hrest, upsert_cons_ne _ _ h]
      rfl

/-- The swarm after a trade. -/
def after (s : Swarm) (e : TradeEvent) (traderType : TraderType) : Swarm :=
  { s with traders := upsert e.user (Trader.after e) (.empty traderType precision 9) s.traders }

/-- A tidy swarm takes every trade and stays tidy. -/
theorem Tidy.update {s : Swarm} (h : s.Tidy) (e : TradeEvent) (traderType : TraderType) :
    s.update e.user e.offer traderType = some (s.after e traderType) ∧
      (s.after e traderType).Tidy := by
  have hfresh : (Trader.empty traderType precision 9).Tidy := Trader.empty_tidy traderType
  constructor
  · rw [Swarm.update, h.decimals, h.quote, updateRows_eq_upsert hfresh h.rows]
    simp [after, h.decimals, h.quote]
  · refine ⟨h.decimals, h.quote, nodup_upsert _ _ _ h.addresses, ?_⟩
    intro row hrow
    rcases mem_upsert _ _ _ hrow with hold | hnew | ⟨t, ht, hchanged⟩
    · exact h.rows row hold
    · rw [hnew]; exact (hfresh.after_spec e).2.1
    · rw [hchanged]; exact ((h.rows _ ht).after_spec e).2.1

end Swarm

end Loggaper
