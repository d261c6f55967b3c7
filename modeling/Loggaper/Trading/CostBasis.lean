import Loggaper.Lib.Transition
import Loggaper.Trading.Swarm

/-!
# The cost basis of a trader

A trader keeps an average cost per unit, scaled by `10 ^ decimals` twice. A buy divides and rounds
down, a sell is charged its share and rounds down. A `Ledger` is a trader with what its offers have
added up to: costs charged, proceeds, and the rounding that they allow for.

The *discrepancy* is the cost that has not been charged yet less the cost that the average gives to
the holdings. A buy adds the remainder of its division to it, a sell the remainder of its own
(`discrepancy_buy`, `discrepancy_sell`), so it is never negative and never more than all remainders
can be (`costBasis_conserved`).
-/

namespace Loggaper

namespace Trader

variable (t : Trader)

/-- `cost_of_sold` before it is cast to 64 bits. -/
def costOfSold (sellAmount : Amount) : ℕ :=
  t.avgCostBasis * sellAmount.raw % 2 ^ 128 / t.scale / t.scale

/-- `scale²`. -/
def unit : ℕ := 10 ^ t.currentHoldings.decimals * 10 ^ t.currentHoldings.decimals

/-- No sell exceeds the holdings. -/
def Covers : Offer → Prop
  | .buy _ _ => True
  | .sell sellAmount _ => sellAmount.raw ≤ t.currentHoldings.raw

/-- No integer of the offer overflows. -/
def Fits : Offer → Prop
  | .buy buyFor received =>
    t.unit < 2 ^ 128 ∧ t.currentHoldings.raw + received.raw < 2 ^ 64 ∧
      t.totalSpent.raw + buyFor < 2 ^ 64 ∧
      t.avgCostBasis * t.currentHoldings.raw + buyFor * t.unit < 2 ^ 128
  | .sell sellAmount received =>
    t.unit < 2 ^ 128 ∧ t.costOfSold sellAmount < 2 ^ 63 ∧ received < 2 ^ 63 ∧
      -2 ^ 63 ≤ t.realizedPnl + (received - t.costOfSold sellAmount) ∧
      t.realizedPnl + (received - t.costOfSold sellAmount) < 2 ^ 63

instance (o : Offer) : Decidable (t.Covers o) := by
  cases o <;> unfold Covers <;> infer_instance

instance (o : Offer) : Decidable (t.Fits o) := by
  cases o <;> unfold Fits <;> infer_instance

end Trader

theorem asI64_eq_self {x : ℤ} (hlo : -2 ^ 63 ≤ x) (hhi : x < 2 ^ 63) : asI64 x = x := by
  rw [asI64, Int.bmod_eq_of_le] <;> omega

/-! ## What one offer does -/

namespace Trader

variable {t t' : Trader}

theorem scale_eq (h : t.unit < 2 ^ 128) : t.scale = 10 ^ t.currentHoldings.decimals := by
  refine Nat.mod_eq_of_lt (lt_of_le_of_lt ?_ h)
  exact Nat.le_mul_of_pos_left _ (by positivity)

theorem unit_pos : 0 < t.unit := by
  unfold unit; positivity

theorem scale_mul_scale (h : t.unit < 2 ^ 128) (n : ℕ) : n * t.scale * t.scale = n * t.unit := by
  rw [scale_eq h, unit, mul_assoc]

/-- The account after a buy that fits and leaves something. -/
def bought (t : Trader) (buyFor : ℕ) (received : Amount) : Trader :=
  { t with
    avgCostBasis := (t.avgCostBasis * t.currentHoldings.raw + buyFor * t.unit) /
      (t.currentHoldings.raw + received.raw)
    currentHoldings := ⟨t.currentHoldings.raw + received.raw, t.currentHoldings.decimals⟩
    totalSpent := ⟨t.totalSpent.raw + buyFor, t.totalSpent.decimals⟩ }

/-- The account after a sell that fits and is covered. -/
def sold (t : Trader) (sellAmount : Amount) (received : ℕ) : Trader :=
  { t with
    realizedPnl := t.realizedPnl + (received - t.costOfSold sellAmount)
    currentHoldings := ⟨t.currentHoldings.raw - sellAmount.raw, t.currentHoldings.decimals⟩
    sellProceedsRaw := min (t.sellProceedsRaw + received) (2 ^ 64 - 1)
    sellEventCount := min (t.sellEventCount + 1) (2 ^ 32 - 1) }

section
variable (buyFor : ℕ) (received : Amount)

@[simp] theorem unit_bought : (t.bought buyFor received).unit = t.unit := rfl

@[simp] theorem spent_bought :
    (t.bought buyFor received).totalSpent.raw = t.totalSpent.raw + buyFor := rfl

@[simp] theorem holdings_bought : (t.bought buyFor received).currentHoldings.raw =
    t.currentHoldings.raw + received.raw := rfl

@[simp] theorem cost_bought : (t.bought buyFor received).avgCostBasis =
    (t.avgCostBasis * t.currentHoldings.raw + buyFor * t.unit) /
      (t.currentHoldings.raw + received.raw) := rfl

end

section
variable (sellAmount : Amount) (received : ℕ)

@[simp] theorem unit_sold : (t.sold sellAmount received).unit = t.unit := rfl

@[simp] theorem spent_sold :
    (t.sold sellAmount received).totalSpent = t.totalSpent := rfl

@[simp] theorem holdings_sold : (t.sold sellAmount received).currentHoldings.raw =
    t.currentHoldings.raw - sellAmount.raw := rfl

@[simp] theorem cost_sold : (t.sold sellAmount received).avgCostBasis = t.avgCostBasis := rfl

@[simp] theorem pnl_sold : (t.sold sellAmount received).realizedPnl =
    t.realizedPnl + (received - t.costOfSold sellAmount) := rfl

end

/-- **A buy.** Without holdings before and after it nothing changes. -/
theorem apply_buy_spec {buyFor : ℕ} {received : Amount} (hfits : t.Fits (.buy buyFor received))
    (h : t.apply (.buy buyFor received) = some t') :
    (t' = t ∧ t.currentHoldings.raw = 0) ∨
      (0 < t.currentHoldings.raw + received.raw ∧ t' = t.bought buyFor received) := by
  obtain ⟨hunit, hholdings, hspent, hdividend⟩ := hfits
  by_cases hdecimals : t.currentHoldings.decimals = received.decimals
  · have hadd : t.currentHoldings.add received =
        some ⟨t.currentHoldings.raw + received.raw, t.currentHoldings.decimals⟩ := by
      rw [Amount.add, if_pos hdecimals]
      exact congrArg (fun n => some (Amount.mk n _)) (Nat.mod_eq_of_lt hholdings)
    have hpaid : t.totalSpent.add (.fromRaw buyFor t.totalSpent.decimals) =
        some ⟨t.totalSpent.raw + buyFor, t.totalSpent.decimals⟩ := by
      rw [Amount.add_fromRaw rfl, Nat.mod_eq_of_lt hspent]
    by_cases hzero : t.currentHoldings.raw + received.raw = 0
    · rw [apply, applyBuy, hadd] at h
      refine .inl ⟨(Option.some.inj ((if_pos hzero).symm.trans h)).symm, ?_⟩
      exact Nat.eq_zero_of_add_eq_zero_right hzero
    · rw [apply, applyBuy, hadd, scale_mul_scale hunit, hpaid, Nat.mod_eq_of_lt hdividend] at h
      exact .inr ⟨Nat.pos_of_ne_zero hzero,
        (Option.some.inj ((if_neg hzero).symm.trans h)).symm⟩
  · rw [apply, applyBuy, Amount.add, if_neg hdecimals] at h
    cases h

/-- **A sell.** -/
theorem apply_sell_spec {sellAmount : Amount} {received : ℕ}
    (hholdings : t.currentHoldings.raw < 2 ^ 64) (hcovers : t.Covers (.sell sellAmount received))
    (hfits : t.Fits (.sell sellAmount received))
    (h : t.apply (.sell sellAmount received) = some t') :
    t' = t.sold sellAmount received := by
  obtain ⟨hunit, hcost, hreceived, hlo, hhi⟩ := hfits
  rw [Covers] at hcovers
  have hraw : (t.currentHoldings.raw + (2 ^ 64 - sellAmount.raw)) % 2 ^ 64 =
      t.currentHoldings.raw - sellAmount.raw := by omega
  by_cases hdecimals : t.currentHoldings.decimals = sellAmount.decimals
  · have hsub : t.currentHoldings.sub sellAmount =
        some ⟨t.currentHoldings.raw - sellAmount.raw, t.currentHoldings.decimals⟩ := by
      rw [Amount.sub, if_pos hdecimals]
      exact congrArg (fun n => some (Amount.mk n _)) hraw
    have hcharged : asI64 (t.costOfSold sellAmount : ℕ) = t.costOfSold sellAmount :=
      asI64_eq_self (by omega) (by omega)
    have hpnl : asI64 (t.realizedPnl + (asI64 received - t.costOfSold sellAmount)) =
        t.realizedPnl + (received - t.costOfSold sellAmount) := by
      rw [asI64_eq_self (x := received) (by omega) (by omega), asI64_eq_self hlo hhi]
    rw [apply, applySell, hsub, ← costOfSold, hcharged, hpnl] at h
    exact (Option.some.inj h).symm
  · rw [apply, applySell, Amount.sub, if_neg hdecimals] at h
    cases h

end Trader

/-! ## The ledger -/

/-- A trader and what its offers have added up to. -/
structure Ledger where
  trader : Trader
  /-- The costs charged to the sells. -/
  charged : ℤ := 0
  /-- The quote received from the sells. -/
  proceeds : ℕ := 0
  /-- The sum, over the buys, of the holdings after the buy. -/
  boughtHoldings : ℕ := 0
  sells : ℕ := 0
  deriving DecidableEq, Repr

namespace Ledger

/-- The ledger after an offer that has turned the trader into `trader`. -/
def enter (l : Ledger) (trader : Trader) : Offer → Ledger
  | .buy _ _ =>
    { l with
      trader := trader
      boughtHoldings := l.boughtHoldings + trader.currentHoldings.raw }
  | .sell sellAmount received =>
    { l with
      trader := trader
      charged := l.charged + asI64 (l.trader.costOfSold sellAmount)
      proceeds := l.proceeds + received
      sells := l.sells + 1 }

/-- The offers of a trader, from an empty account on. -/
def machine : Machine Ledger Offer where
  init l := ∃ traderType decimals pairedDecimals,
    l = { trader := .empty traderType decimals pairedDecimals }
  step l offer := (l.trader.apply offer).map fun trader => l.enter trader offer

/-- No sell exceeds the holdings. -/
def Covers (l : Ledger) (offer : Offer) : Prop := l.trader.Covers offer

/-- No sell exceeds the holdings and no integer overflows. -/
def Exact (l : Ledger) (offer : Offer) : Prop := l.trader.Covers offer ∧ l.trader.Fits offer

instance (l : Ledger) (offer : Offer) : Decidable (l.Covers offer) :=
  inferInstanceAs (Decidable (l.trader.Covers offer))

instance (l : Ledger) (offer : Offer) : Decidable (l.Exact offer) :=
  inferInstanceAs (Decidable (_ ∧ _))

variable (l : Ledger)

/-- The cost that is left to charge, less the cost that the average gives to the holdings. -/
def discrepancy : ℤ :=
  (l.trader.totalSpent.raw - l.charged) * l.trader.unit -
    l.trader.avgCostBasis * l.trader.currentHoldings.raw

/-- What the divisions so far can have cut off. -/
def roundingBound : ℕ := l.boughtHoldings + l.sells * l.trader.unit

/-- The discrepancy is rounding: below the bound, or there is nothing to round. -/
def Rounded : Prop :=
  0 ≤ l.discrepancy ∧
    (l.discrepancy < l.roundingBound ∨ l.discrepancy = 0 ∧ l.roundingBound = 0)

/-- What every offer keeps. -/
structure Balanced : Prop where
  holdings_lt : l.trader.currentHoldings.raw < 2 ^ 64
  cost_lt : l.trader.avgCostBasis * l.trader.currentHoldings.raw < 2 ^ 128
  pnl : l.trader.realizedPnl = l.proceeds - l.charged
  rounded : l.Rounded

variable {l : Ledger}

theorem Rounded.le (h : l.Rounded) : l.discrepancy ≤ l.roundingBound := by
  rcases h.2 with hlt | ⟨hzero, hbound⟩
  · exact hlt.le
  · rw [hzero, hbound]; rfl

/-- An offer that adds less to the discrepancy than to the bound. -/
theorem Rounded.step {l' : Ledger} (h : l.Rounded) {rest room : ℕ} (hrest : rest < room)
    (hdiscrepancy : l'.discrepancy = l.discrepancy + rest)
    (hbound : l'.roundingBound = l.roundingBound + room) : l'.Rounded := by
  have hle := h.le
  have hnonneg := h.1
  unfold Rounded
  rw [hdiscrepancy, hbound]
  omega

/-- A buy adds the remainder of its division. -/
theorem discrepancy_buy (buyFor : ℕ) (received : Amount) :
    (l.enter (l.trader.bought buyFor received) (.buy buyFor received)).discrepancy =
      l.discrepancy +
        ((l.trader.avgCostBasis * l.trader.currentHoldings.raw + buyFor * l.trader.unit) %
          (l.trader.currentHoldings.raw + received.raw) : ℕ) := by
  have hdiv := Nat.div_add_mod
    (l.trader.avgCostBasis * l.trader.currentHoldings.raw + buyFor * l.trader.unit)
    (l.trader.currentHoldings.raw + received.raw)
  zify at hdiv
  simp only [discrepancy, enter, Trader.unit_bought, Trader.spent_bought, Trader.holdings_bought,
    Trader.cost_bought]
  push_cast
  linarith

/-- A sell adds the remainder of its division. -/
theorem discrepancy_sell {sellAmount : Amount} {received : ℕ} (hl : l.Balanced)
    (h : l.Exact (.sell sellAmount received)) :
    (l.enter (l.trader.sold sellAmount received) (.sell sellAmount received)).discrepancy =
      l.discrepancy + (l.trader.avgCostBasis * sellAmount.raw % l.trader.unit : ℕ) := by
  obtain ⟨hcovers, hunit, hcost, -⟩ := h
  rw [Trader.Covers] at hcovers
  have hcharged : asI64 (l.trader.costOfSold sellAmount : ℕ) = l.trader.costOfSold sellAmount :=
    asI64_eq_self (by omega) (by omega)
  have hexact : l.trader.costOfSold sellAmount =
      l.trader.avgCostBasis * sellAmount.raw / l.trader.unit := by
    have hlt : l.trader.avgCostBasis * sellAmount.raw < 2 ^ 128 :=
      (Nat.mul_le_mul_left _ hcovers).trans_lt hl.cost_lt
    rw [Trader.costOfSold, Nat.mod_eq_of_lt hlt, Nat.div_div_eq_div_mul, Trader.scale_eq hunit,
      Trader.unit]
  have hdiv := Nat.div_add_mod (l.trader.avgCostBasis * sellAmount.raw) l.trader.unit
  rw [← hexact] at hdiv
  have hleft : ((l.trader.currentHoldings.raw - sellAmount.raw : ℕ) : ℤ) =
      l.trader.currentHoldings.raw - sellAmount.raw := Nat.cast_sub hcovers
  zify at hdiv
  simp only [discrepancy, enter, Trader.unit_sold, Trader.spent_sold, Trader.holdings_sold,
    Trader.cost_sold, hcharged, hleft]
  push_cast
  linarith

theorem Balanced.step {l' : Ledger} {offer : Offer} (hl : l.Balanced) (h : l.Exact offer)
    (hstep : machine.step l offer = some l') : l'.Balanced := by
  simp only [machine, Option.map_eq_some_iff] at hstep
  obtain ⟨trader, happly, rfl⟩ := hstep
  cases offer with
  | buy buyFor received =>
    rcases Trader.apply_buy_spec h.2 happly with ⟨rfl, hzero⟩ | ⟨hpos, rfl⟩
    · have hsame : l.enter l.trader (.buy buyFor received) = l := by
        simp [enter, hzero]
      rw [hsame]
      exact hl
    · obtain ⟨-, hholdings, -, hdividend⟩ := h.2
      refine ⟨hholdings, ?_, hl.pnl, ?_⟩
      · exact (Nat.div_mul_le_self _ _).trans_lt hdividend
      · refine hl.rounded.step (Nat.mod_lt _ hpos) (discrepancy_buy buyFor received) ?_
        simp only [roundingBound, enter, Trader.unit_bought, Trader.holdings_bought]
        ring
  | sell sellAmount received =>
    obtain rfl := Trader.apply_sell_spec hl.holdings_lt h.1 h.2 happly
    have hcost := h.2.2.1
    refine ⟨?_, ?_, ?_, ?_⟩
    · exact (Nat.sub_le _ _).trans_lt hl.holdings_lt
    · exact (Nat.mul_le_mul_left _ (Nat.sub_le _ _)).trans_lt hl.cost_lt
    · have hcharged : asI64 (l.trader.costOfSold sellAmount : ℕ) = l.trader.costOfSold sellAmount :=
        asI64_eq_self (by omega) (by omega)
      simp only [enter, Trader.pnl_sold, hcharged, hl.pnl, Nat.cast_add]
      ring
    · refine hl.rounded.step (Nat.mod_lt _ Trader.unit_pos) (discrepancy_sell hl h) ?_
      simp only [roundingBound, enter, Trader.unit_sold]
      ring

theorem balanced_of_reachable (h : machine.ReachableUnder Exact l) : l.Balanced := by
  refine h.invariant ?_ fun _ _ _ hl hexact hstep => hl.step hexact hstep
  rintro _ ⟨traderType, decimals, pairedDecimals, rfl⟩
  refine ⟨Nat.two_pow_pos _, ?_, rfl, ?_⟩
  · simp [Trader.empty]
  · simp [Rounded, discrepancy, roundingBound, Trader.empty, Amount.fromRaw, Amount.raw]

/-! ## Conservation -/

/-- The cost is conserved up to rounding. -/
structure Conserved (l : Ledger) : Prop where
  rounded : l.Rounded
  charged_le : l.charged ≤ l.trader.totalSpent.raw
  pnl : (l.proceeds : ℤ) - l.trader.totalSpent.raw ≤ l.trader.realizedPnl
  /-- After a complete exit. -/
  exit : l.trader.currentHoldings.raw = 0 →
    (l.trader.totalSpent.raw - l.charged) * l.trader.unit ≤ l.roundingBound

/-- **The cost basis is conserved.** As long as no sell exceeds the holdings and nothing
overflows. -/
theorem costBasis_conserved (h : machine.ReachableUnder Exact l) : l.Conserved := by
  have hl := balanced_of_reachable h
  have hle := hl.rounded.le
  have hnonneg := hl.rounded.1
  unfold discrepancy at hle hnonneg
  have hcharged : l.charged ≤ l.trader.totalSpent.raw := by
    have hunit : (0 : ℤ) < l.trader.unit := by exact_mod_cast l.trader.unit_pos
    have hcost : (0 : ℤ) ≤ l.trader.avgCostBasis * l.trader.currentHoldings.raw := by positivity
    have hleft : 0 ≤ (l.trader.totalSpent.raw - l.charged) * (l.trader.unit : ℤ) := by linarith
    linarith [nonneg_of_mul_nonneg_left hleft hunit]
  refine ⟨hl.rounded, hcharged, ?_, ?_⟩
  · rw [hl.pnl]
    linarith
  · intro hexit
    rw [hexit] at hle
    simpa using hle

/-- An account of a pump token before its first offer. -/
def opening : Ledger := { trader := .empty .regular precision 9 }

theorem opening_init : machine.init opening := ⟨_, _, _, rfl⟩

/-- Two buys and two sells, the second of everything that is left. -/
theorem costBasis_conserved_roundTrip :
    Conserved
      { trader :=
          { currentHoldings := ⟨0, 6⟩
            avgCostBasis := 95238097071428571428
            totalSpent := ⟨10 ^ 9 + 11, 9⟩
            realizedPnl := 299999990
            sellProceedsRaw := 13 * 10 ^ 8
            sellEventCount := 2
            traderType := .regular }
        charged := 10 ^ 9 + 10
        proceeds := 13 * 10 ^ 8
        boughtHoldings := 13
        sells := 2 } :=
  costBasis_conserved ⟨opening,
    [.buy (10 ^ 9) ⟨7, 6⟩, .sell ⟨3, 6⟩ (5 * 10 ^ 8), .buy 11 ⟨2, 6⟩, .sell ⟨6, 6⟩ (8 * 10 ^ 8)],
    opening_init, .of_runUnder (by decide +kernel)⟩

/-- The account after two buys of `2 ^ 63` lamports: what it has spent in total has wrapped to 0. -/
def wrapped : Ledger :=
  { trader :=
      { currentHoldings := ⟨2, 6⟩
        avgCostBasis := 2 ^ 63 * 10 ^ 12
        totalSpent := ⟨0, 9⟩
        realizedPnl := 0
        sellProceedsRaw := 0
        sellEventCount := 0
        traderType := .regular }
    boughtHoldings := 3 }

/-- **Not below the bound, and not conserved.** An empty account has discrepancy and bound 0; and
where total spent wraps, the discrepancy is negative. -/
theorem strict_bound_fails :
    (machine.ReachableUnder Covers opening ∧ ¬ opening.discrepancy < opening.roundingBound) ∧
      (machine.ReachableUnder Covers wrapped ∧ wrapped.discrepancy < 0) := by
  refine ⟨⟨⟨opening, [], opening_init, .nil _⟩, by decide +kernel⟩, ?_, by decide +kernel⟩
  exact ⟨opening, [.buy (2 ^ 63) ⟨1, 6⟩, .buy (2 ^ 63) ⟨1, 6⟩], opening_init,
    .of_runUnder (by decide +kernel)⟩

end Ledger

end Loggaper
