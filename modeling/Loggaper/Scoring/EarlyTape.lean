import Loggaper.Launchpads.Pump.Traders
import Loggaper.Scoring.Features
import Mathlib.Algebra.BigOperators.Group.List.Basic

/-!
# The early tape against the stream

The tape counts trader rows. A row stands for a buyer only when the wallet's first trade is a buy
of at least one unit: a wallet that sells what it got by transfer gets a row too, and the wrapped
holdings make it a holder.

Main result: `tapeFaithful_of_countable`.
-/

namespace Loggaper

/-- The wallets other than the creators with at least one buy. -/
def buyers (creators : List Address) (trades : List (Slot × TradeEvent)) : Finset Address :=
  ((trades.filter fun t => t.2.isBuy && t.2.user ∉ creators).map (·.2.user)).toFinset

/-- A trade after which the tape still counts buyers: the pool keeps token reserves, a new wallet
starts with a buy, nobody leaves who has paid nothing, and nobody's payments wrap. -/
structure TokenBucket.TradesCountably (b : TokenBucket) (e : TradeEvent) : Prop where
  reserves : e.virtualTokenReserves ≠ 0
  first_buy : e.user ∉ b.pool.creators → b.account e.user = none →
    e.isBuy = true ∧ e.tokenAmount ≠ 0
  paid_before_exit : e.user ∉ b.pool.creators → ∀ trader ∈ b.account e.user, e.isBuy = false →
    e.tokenAmount.toNat = trader.currentHoldings.raw → 0 < trader.totalSpent.raw
  spent_fits : e.user ∉ b.pool.creators → ∀ trader ∈ b.account e.user, trader.entersBuy e = true →
    trader.totalSpent.raw + e.solAmount.toNat < 2 ^ 64

section
variable (poolPda : Address → Address) (sniperThreshold : UInt64)

/-- Every trade that finds its token is countable. -/
def Countable : List (Slot × PumpEvent) → Prop :=
  Along fun pre e => ∀ t, e.2 = .trade t →
    ∀ b ∈ (PumpLaunchpadStorage.afterEvents poolPda sniperThreshold pre).bucket poolPda t.mint,
      b.TradesCountably t

/-- **The counters mean what the gates assume.** After every prefix the tape counts exactly the
buyers, each one as a holder or as sold; and from one prefix to a longer one no counter decreases
and the new buyers are those who bought in between. -/
structure TapeFaithful (es : List (Slot × PumpEvent)) : Prop where
  counts : ∀ pre, pre <+: es → ∀ key,
    ∀ b ∈ AList.lookup key (PumpLaunchpadStorage.afterEvents poolPda sniperThreshold pre).tokens,
      ∃ p ∈ snapshotEarlyTape b,
        (b.participants.map Prod.fst).toFinset =
          buyers b.pool.creators (processedTrades poolPda key pre) ∧
        p.buyerCount = (buyers b.pool.creators (processedTrades poolPda key pre)).card ∧
        p.stillLong + p.alreadySold = p.buyerCount
  grows : ∀ pre pre', pre <+: pre' → pre' <+: es → ∀ key,
    ∀ b ∈ AList.lookup key (PumpLaunchpadStorage.afterEvents poolPda sniperThreshold pre).tokens,
    ∀ b' ∈ AList.lookup key (PumpLaunchpadStorage.afterEvents poolPda sniperThreshold pre').tokens,
    ∀ p ∈ snapshotEarlyTape b, ∀ p' ∈ snapshotEarlyTape b',
      p.buyerCount ≤ p'.buyerCount ∧ p.buyVolumeSol ≤ p'.buyVolumeSol ∧
        p.cumSellRaw ≤ p'.cumSellRaw ∧ p.cumSellEvents ≤ p'.cumSellEvents ∧
        p'.newBuyers p.buyerCount =
          (buyers b'.pool.creators (processedTrades poolPda key pre') \
            buyers b.pool.creators (processedTrades poolPda key pre)).card

end

/-! ## The rows that the tape counts -/

namespace TokenHistory

variable (sniperThreshold : UInt64) (h : TokenHistory)

/-- The rows of other wallets than the creator. -/
def otherRows : List (Address × Trader) :=
  (h.swarm sniperThreshold).traders.filter fun row => ¬ row.2.traderType = .creator

theorem participants_perm :
    (h.bucket sniperThreshold).participants.Perm (h.otherRows sniperThreshold) := by
  have hswarm := (h.bucket_spec sniperThreshold).2.2.2.1
  have hsplit := List.filter_append_perm
    (fun row : Address × Trader => row.2.traderType == .regular) (h.otherRows sniperThreshold)
  simp only [otherRows, List.filter_filter] at hsplit
  simp only [TokenBucket.participants, TokenBucket.tradersByType, hswarm, Option.elim_some,
    Swarm.tradersByType, otherRows]
  convert hsplit using 2
  · apply List.filter_congr
    intro row _
    cases row.2.traderType <;> rfl
  · apply List.filter_congr
    intro row _
    cases row.2.traderType <;> rfl

/-- A sum over the counted rows, as one over all rows. -/
theorem sum_otherRows {M : Type*} [AddCommMonoid M] (g : Address × Trader → M) :
    ((h.otherRows sniperThreshold).map g).sum =
      ((h.swarm sniperThreshold).traders.map fun row =>
        if ¬ row.2.traderType = .creator then g row else 0).sum := by
  rw [List.sum_map_ite]
  simp [otherRows]

theorem mem_otherRows {row : Address × Trader} :
    row ∈ h.otherRows sniperThreshold ↔
      row ∈ (h.swarm sniperThreshold).traders ∧ row.1 ≠ h.creator := by
  rw [otherRows, List.mem_filter, decide_eq_true_iff]
  apply and_congr_right
  intro hrow
  exact not_congr (h.traderType_eq_creator_iff sniperThreshold hrow)

/-- A trade makes at most one row and one sell. -/
theorem rows_le_trades :
    (h.swarm sniperThreshold).traders.length ≤ h.trades.length ∧
      ((h.swarm sniperThreshold).traders.map fun row => row.2.sellEventCount).sum ≤
        h.trades.length := by
  induction h using trades_induction with
  | launch createdAt mint creator => exact ⟨le_rfl, le_rfl⟩
  | trade h t ih =>
    obtain ⟨hrows, hsells⟩ := ih
    have htidy := (h.bucket_spec sniperThreshold).2.2.2.2
    rw [swarm_concat, Swarm.after, List.length_append]
    constructor
    · have hone := sum_upsert_le t.2.user (Trader.after t.2)
        (.empty (h.role sniperThreshold t.1 t.2.user) precision 9) (c := 1) (fun _ => 1)
        (h.swarm sniperThreshold).traders (fun _ _ => by omega) le_rfl
      simp only [List.map_const', List.sum_replicate, Nat.nsmul_eq_mul, mul_one] at hone
      exact hone.trans (Nat.add_le_add_right hrows 1)
    · have hsell : ∀ trader : Trader, trader.Tidy →
          (Trader.after t.2 trader).sellEventCount ≤ trader.sellEventCount + 1 := by
        intro trader hrow
        rw [(hrow.after_spec t.2).2.2.2.2.2.2]
        split_ifs <;> omega
      have hone := sum_upsert_le t.2.user (Trader.after t.2)
        (.empty (h.role sniperThreshold t.1 t.2.user) precision 9) (c := 1)
        (fun row => row.2.sellEventCount) (h.swarm sniperThreshold).traders
        (fun trader hrow => hsell trader (htidy.rows _ hrow)) (hsell _ (Trader.empty_tidy _))
      exact hone.trans (Nat.add_le_add_right hsells 1)

/-- What the counters need of each row of another wallet than the creator. -/
structure Counted : Prop where
  reserves : (h.bucket sniperThreshold).pool.virtualTokenReserves.raw ≠ 0
  rows : ∀ user trader, (h.bucket sniperThreshold).account user = some trader →
    user ≠ h.creator →
      (trader.currentHoldings.raw = 0 → 0 < trader.totalSpent.raw) ∧
        ∃ t ∈ h.trades, t.2.user = user ∧ t.2.isBuy = true

variable {sniperThreshold h}

/-- A wallet that is left without tokens has paid for them. -/
theorem Counted.paid_after (hc : h.Counted sniperThreshold) {t : Slot × TradeEvent}
    (ht : (h.bucket sniperThreshold).TradesCountably t.2) (hne : t.2.user ≠ h.creator)
    (hzero : (Trader.after t.2
      (h.openAccount sniperThreshold t.1 t.2.user)).currentHoldings.raw = 0) :
    0 < (Trader.after t.2 (h.openAccount sniperThreshold t.1 t.2.user)).totalSpent.raw := by
  have hother : t.2.user ∉ (h.bucket sniperThreshold).pool.creators := by
    rw [(h.bucket_spec sniperThreshold).2.2.1, List.mem_singleton]
    exact hne
  have htidy := h.openAccount_tidy sniperThreshold t.1 t.2.user
  obtain ⟨-, -, -, hholds, hspent, -, -⟩ := htidy.after_spec t.2
  have hlt := htidy.holdings_lt
  have ha : t.2.tokenAmount.toNat < 2 ^ 64 := t.2.tokenAmount.toNat_lt
  rw [hholds] at hzero
  rw [hspent]
  cases hacc : (h.bucket sniperThreshold).account t.2.user with
  | none =>
    -- a first buy leaves tokens
    obtain ⟨hbuy, hpos⟩ := ht.first_buy hother hacc
    have hpos : t.2.tokenAmount.toNat ≠ 0 := fun h => hpos (UInt64.toNat_inj.mp h)
    have hopen : (h.openAccount sniperThreshold t.1 t.2.user).currentHoldings.raw = 0 := by
      rw [openAccount, hacc]
      rfl
    have hsum : (0 + t.2.tokenAmount.toNat) % 2 ^ 64 ≠ 0 := by omega
    have henters : (h.openAccount sniperThreshold t.1 t.2.user).entersBuy t.2 = true := by
      rw [Trader.entersBuy, hbuy, hopen, Bool.true_and, bne_iff_ne]
      exact hsum
    rw [hbuy, if_pos rfl, if_pos henters, hopen] at hzero
    exact absurd hzero hsum
  | some trader =>
    have hopen : h.openAccount sniperThreshold t.1 t.2.user = trader := by
      rw [openAccount, hacc]
      rfl
    have hpaid := (hc.rows _ _ hacc hne).1
    rw [hopen] at hzero hlt ⊢
    cases hside : t.2.isBuy with
    | true =>
      rw [hside, if_pos rfl] at hzero
      by_cases henters : trader.entersBuy t.2 = true
      · rw [if_pos henters] at hzero
        rw [Trader.entersBuy, hzero] at henters
        simp at henters
      · rw [if_neg henters] at hzero ⊢
        exact hpaid hzero
    | false =>
      rw [hside, if_neg (by simp)] at hzero
      have henters : ¬ trader.entersBuy t.2 = true := by simp [Trader.entersBuy, hside]
      rw [if_neg henters]
      exact ht.paid_before_exit hother trader hacc hside (by omega)

theorem Counted.concat (hc : h.Counted sniperThreshold) {t : Slot × TradeEvent}
    (ht : (h.bucket sniperThreshold).TradesCountably t.2) :
    Counted sniperThreshold { h with trades := h.trades ++ [t] } := by
  constructor
  · rw [bucket_concat]
    intro hzero
    exact ht.reserves (UInt64.toNat_inj.mp hzero)
  · intro user trader hacc hne
    rw [account_concat] at hacc
    split_ifs at hacc with hu
    · subst hu
      cases hacc
      refine ⟨hc.paid_after ht hne, ?_⟩
      cases hold : (h.bucket sniperThreshold).account t.2.user with
      | none =>
        have hother : t.2.user ∉ (h.bucket sniperThreshold).pool.creators := by
          rw [(h.bucket_spec sniperThreshold).2.2.1, List.mem_singleton]
          exact hne
        exact ⟨t, by simp, rfl, (ht.first_buy hother hold).1⟩
      | some trader =>
        obtain ⟨-, t', ht', hbuy⟩ := hc.rows _ _ hold hne
        exact ⟨t', List.mem_append_left _ ht', hbuy⟩
    · obtain ⟨hpaid, t', ht', hbuy⟩ := hc.rows user trader hacc hne
      exact ⟨hpaid, t', List.mem_append_left _ ht', hbuy⟩

end TokenHistory

/-- An account whose counters do not decrease; the creator's are not counted. -/
structure Trader.CountersGrow (t t' : Trader) : Prop where
  traderType : t'.traderType = t.traderType
  spent : t.traderType ≠ .creator → t.totalSpent.toFloat ≤ t'.totalSpent.toFloat
  proceeds : t.sellProceedsRaw ≤ t'.sellProceedsRaw
  sells : t.sellEventCount ≤ t'.sellEventCount

namespace Trader.CountersGrow

theorem refl (t : Trader) : t.CountersGrow t := ⟨rfl, fun _ => le_rfl, le_rfl, le_rfl⟩

theorem trans {t t' t'' : Trader} (h : t.CountersGrow t') (h' : t'.CountersGrow t'') :
    t.CountersGrow t'' where
  traderType := h'.traderType.trans h.traderType
  spent hne := (h.spent hne).trans (h'.spent (h.traderType ▸ hne))
  proceeds := h.proceeds.trans h'.proceeds
  sells := h.sells.trans h'.sells

/-- A trade lets the counters of its account grow, as long as its payments fit. -/
theorem after {t : Trader} (ht : t.Tidy) {e : TradeEvent}
    (hfits : t.traderType ≠ .creator → t.entersBuy e = true →
      t.totalSpent.raw + e.solAmount.toNat < 2 ^ 64) : t.CountersGrow (t.after e) := by
  obtain ⟨-, htidy, htype, -, hspent, hproceeds, hsells⟩ := ht.after_spec e
  have hproceeds_le := ht.proceeds_le
  have hsells_le := ht.sells_le
  refine ⟨htype, ?_, ?_, ?_⟩
  · intro hne
    rw [Amount.toFloat, Amount.toFloat, ht.paired, htidy.paired]
    gcongr
    show t.totalSpent.raw ≤ (t.after e).totalSpent.raw
    rw [hspent]
    split_ifs with henters
    · have := hfits hne henters
      rw [Nat.mod_eq_of_lt this]
      exact Nat.le_add_right _ _
    · exact le_rfl
  · rw [hproceeds]
    split_ifs <;> omega
  · rw [hsells]
    split_ifs <;> omega

end Trader.CountersGrow

namespace TokenHistory

variable {sniperThreshold : UInt64} {h : TokenHistory}

theorem countersGrow_concat {t : Slot × TradeEvent}
    (ht : (h.bucket sniperThreshold).TradesCountably t.2) :
    Grows Trader.CountersGrow (h.swarm sniperThreshold).traders
      (swarm sniperThreshold { h with trades := h.trades ++ [t] }).traders := by
  obtain ⟨-, -, hcreators, -, htidy⟩ := h.bucket_spec sniperThreshold
  rw [swarm_concat]
  apply Grows.upsert (R := Trader.CountersGrow) .refl
  intro trader hrow
  apply Trader.CountersGrow.after (htidy.rows _ hrow)
  intro hne henters
  rw [Ne, h.traderType_eq_creator_iff sniperThreshold hrow] at hne
  refine ht.spent_fits ?_ trader (h.account_of_mem sniperThreshold hrow) henters
  rw [hcreators, List.mem_singleton]
  exact hne

/-- **What the tape shows**, while rows and sells fit in 64 bits. -/
theorem Counted.snapshot_spec (hc : h.Counted sniperThreshold) (hlen : h.trades.length < 2 ^ 64) :
    ∃ p ∈ snapshotEarlyTape (h.bucket sniperThreshold),
      p.buyerCount = (h.otherRows sniperThreshold).length ∧
      p.stillLong + p.alreadySold = p.buyerCount ∧
      p.buyVolumeSol = ((h.otherRows sniperThreshold).map fun row => row.2.totalSpent.toFloat).sum ∧
      p.cumSellRaw =
        min ((h.otherRows sniperThreshold).map fun row => row.2.sellProceedsRaw).sum u64Max ∧
      p.cumSellEvents =
        ((h.otherRows sniperThreshold).map fun row => row.2.sellEventCount).sum := by
  have hperm := h.participants_perm sniperThreshold
  obtain ⟨hrows, hsells⟩ := h.rows_le_trades sniperThreshold
  have hsub : (h.otherRows sniperThreshold).Sublist (h.swarm sniperThreshold).traders :=
    List.filter_sublist
  have hlength : (h.otherRows sniperThreshold).length < 2 ^ 64 :=
    (hsub.length_le.trans hrows).trans_lt hlen
  have hevents : ((h.otherRows sniperThreshold).map fun row => row.2.sellEventCount).sum < 2 ^ 64 :=
    ((List.Sublist.sum_le_sum (hsub.map _) (by simp)).trans hsells).trans_lt hlen
  -- every counted row either holds or has sold
  have hsplit : (h.otherRows sniperThreshold).countP (fun row => 0 < row.2.currentHoldings.raw) +
      (h.otherRows sniperThreshold).countP (fun row => TapeCounts.exited row.2) =
        (h.otherRows sniperThreshold).length := by
    rw [List.length_eq_countP_add_countP fun row : Address × Trader =>
      decide (0 < row.2.currentHoldings.raw)]
    congr 1
    apply List.countP_congr
    intro row hrow
    obtain ⟨hmem, hne⟩ := (h.mem_otherRows sniperThreshold).mp hrow
    have hpaid := (hc.rows _ _ (h.account_of_mem sniperThreshold hmem) hne).1
    simp only [TapeCounts.exited, Bool.and_eq_true, beq_iff_eq, decide_eq_true_iff,
      Amount.toFloat_pos_iff]
    constructor
    · intro hexited
      omega
    · intro hnot
      have hzero : row.2.currentHoldings.raw = 0 := by omega
      exact ⟨hzero, hpaid hzero⟩
  obtain ⟨mcap, hmcap⟩ : ∃ mcap, (h.bucket sniperThreshold).pool.marketCap = some mcap :=
    ⟨_, if_neg hc.reserves⟩
  refine ⟨_, by rw [snapshotEarlyTape, TapeCounts.foldl_scan_eq, hmcap]; rfl, ?_, ?_, ?_, ?_, ?_⟩
  · show _ % 2 ^ 64 = _
    rw [hperm.length_eq, Nat.mod_eq_of_lt hlength]
  · show _ % 2 ^ 64 + _ % 2 ^ 64 = _ % 2 ^ 64
    rw [hperm.length_eq, hperm.countP_eq, hperm.countP_eq, ← hsplit]
    rw [← hsplit] at hlength
    omega
  · exact (hperm.map _).sum_eq
  · exact congrArg (min · u64Max) (hperm.map _).sum_eq
  · show _ % 2 ^ 64 = _
    rw [(hperm.map _).sum_eq, Nat.mod_eq_of_lt hevents]

/-- **The counted wallets are the buyers.** -/
theorem Counted.toFinset_participants (hc : h.Counted sniperThreshold) :
    ((h.bucket sniperThreshold).participants.map Prod.fst).toFinset =
      buyers (h.bucket sniperThreshold).pool.creators h.trades := by
  ext user
  rw [(h.bucket_spec sniperThreshold).2.2.1,
    List.toFinset_eq_of_perm _ _ ((h.participants_perm sniperThreshold).map _)]
  simp only [buyers, List.mem_toFinset, List.mem_map, List.mem_filter, Bool.and_eq_true,
    decide_eq_true_iff, List.mem_singleton]
  constructor
  · intro ⟨row, hrow, huser⟩
    obtain ⟨hmem, hne⟩ := (h.mem_otherRows sniperThreshold).mp hrow
    obtain ⟨-, t, ht, htuser, hbuy⟩ :=
      hc.rows _ _ (h.account_of_mem sniperThreshold hmem) hne
    exact ⟨t, ⟨ht, hbuy, htuser ▸ hne⟩, htuser.trans huser⟩
  · intro ⟨t, ⟨ht, _, hne⟩, huser⟩
    obtain ⟨row, hrow, hrowuser⟩ :=
      List.mem_map.mp ((h.mem_addresses_iff sniperThreshold).mpr ⟨t, ht, rfl⟩)
    exact ⟨row, (h.mem_otherRows sniperThreshold).mpr ⟨hrow, hrowuser ▸ hne⟩, hrowuser.trans huser⟩

theorem Counted.card_buyers (hc : h.Counted sniperThreshold) :
    (buyers (h.bucket sniperThreshold).pool.creators h.trades).card =
      (h.otherRows sniperThreshold).length := by
  have hsub : (h.otherRows sniperThreshold).Sublist (h.swarm sniperThreshold).traders :=
    List.filter_sublist
  have hnodup : ((h.otherRows sniperThreshold).map Prod.fst).Nodup :=
    (h.bucket_spec sniperThreshold).2.2.2.2.addresses.sublist (hsub.map _)
  rw [← hc.toFinset_participants,
    List.toFinset_eq_of_perm _ _ ((h.participants_perm sniperThreshold).map _),
    List.toFinset_card_of_nodup hnodup, List.length_map]

end TokenHistory

/-! ## Streams -/

section
variable (poolPda : Address → Address) {sniperThreshold : UInt64} {es : List (Slot × PumpEvent)}

theorem length_trades_le (key : Address) :
    ∀ h ∈ TokenHistory.of poolPda key es, h.trades.length ≤ es.length := by
  induction es using List.reverseRecOn with
  | nil => simp
  | append_singleton es e ih =>
    obtain ⟨slot, e⟩ := e
    intro h hh
    rw [TokenHistory.of_concat] at hh
    rw [List.length_append, List.length_singleton]
    cases e with
    | create c =>
      simp only [TokenHistory.step] at hh
      split_ifs at hh
      · cases hh
        exact Nat.zero_le _
      · exact Nat.le_succ_of_le (ih h hh)
    | trade t =>
      simp only [TokenHistory.step] at hh
      split_ifs at hh
      · obtain ⟨h', hof, rfl⟩ := Option.mem_map.mp hh
        rw [List.length_append, List.length_singleton]
        exact Nat.add_le_add_right (ih h' hof) 1
      · exact Nat.le_succ_of_le (ih h hh)

theorem Countable.counted (h : Countable poolPda sniperThreshold es) (key : Address) :
    ∀ hist ∈ TokenHistory.of poolPda key es, hist.Counted sniperThreshold := by
  induction es using List.reverseRecOn with
  | nil => simp
  | append_singleton es e ih =>
    obtain ⟨hes, he⟩ := Along.append_singleton.mp h
    have ih := ih hes
    obtain ⟨slot, e⟩ := e
    intro hist hh
    rw [TokenHistory.of_concat] at hh
    cases e with
    | create c =>
      simp only [TokenHistory.step] at hh
      split_ifs at hh
      · cases hh
        exact ⟨Nat.succ_ne_zero _, fun user trader hacc => by cases hacc⟩
      · exact ih hist hh
    | trade t =>
      simp only [TokenHistory.step] at hh
      split_ifs at hh with hkey
      · obtain ⟨hist', hof, rfl⟩ := Option.mem_map.mp hh
        subst hkey
        apply (ih hist' hof).concat
        apply he t rfl
        rw [PumpLaunchpadStorage.bucket_afterEvents]
        exact Option.mem_map.mpr ⟨hist', hof, rfl⟩
      · exact ih hist hh

/-- The sums that the tape shows grow with the rows. -/
theorem sum_otherRows_le {M : Type*} [AddCommMonoid M] [PartialOrder M] [IsOrderedAddMonoid M]
    {h h' : TokenHistory}
    (hgrow : Grows Trader.CountersGrow (h.swarm sniperThreshold).traders
      (h'.swarm sniperThreshold).traders)
    (g : Address × Trader → M) (h₀ : ∀ row, 0 ≤ g row)
    (hg : ∀ k v v', Trader.CountersGrow v v' → v.traderType ≠ .creator → g (k, v) ≤ g (k, v')) :
    ((h.otherRows sniperThreshold).map g).sum ≤ ((h'.otherRows sniperThreshold).map g).sum := by
  rw [h.sum_otherRows, h'.sum_otherRows]
  apply hgrow.sum_le
  · intro k v v' hv
    simp only [hv.traderType]
    split_ifs with hcreator
    · exact le_rfl
    · exact hg k v v' hv hcreator
  · intro row
    split_ifs
    · exact le_rfl
    · exact h₀ row

theorem buyers_mono (creators : List Address) {trades trades' : List (Slot × TradeEvent)}
    (h : trades <+: trades') : buyers creators trades ⊆ buyers creators trades' := by
  intro user huser
  simp only [buyers, List.mem_toFinset, List.mem_map] at huser ⊢
  obtain ⟨t, ht, hmem⟩ := huser
  exact ⟨t, (h.sublist.filter _).subset ht, hmem⟩

/-- From one prefix to a longer one, a history gains trades and its counters grow. -/
theorem hist_grows (hlaunch : NotRelaunched poolPda es)
    (hcount : Countable poolPda sniperThreshold es)
    {pre pre' : List (Slot × PumpEvent)} (hlonger : pre <+: pre') (hpre' : pre' <+: es)
    (key : Address) {h h' : TokenHistory} (hof : TokenHistory.of poolPda key pre = some h)
    (hof' : TokenHistory.of poolPda key pre' = some h') :
    Grows Trader.CountersGrow (h.swarm sniperThreshold).traders
        (h'.swarm sniperThreshold).traders ∧
      h.trades <+: h'.trades ∧ h'.creator = h.creator := by
  obtain ⟨rest, rfl⟩ := hlonger
  obtain ⟨later, hlater, hrel⟩ := NotRelaunched.related poolPda
    (R := fun h h' => Grows Trader.CountersGrow (h.swarm sniperThreshold).traders
        (h'.swarm sniperThreshold).traders ∧
      h.trades <+: h'.trades ∧ h'.creator = h.creator)
    (fun h => ⟨Grows.refl .refl _, List.prefix_rfl, rfl⟩)
    (fun _ _ _ ⟨hgrow, hmore, hcreator⟩ ⟨hgrow', hmore', hcreator'⟩ =>
      ⟨hgrow.trans (fun _ _ _ => .trans) hgrow', hmore.trans hmore', hcreator'.trans hcreator⟩)
    (fun pre slot t hist hpre hof => by
      refine ⟨TokenHistory.countersGrow_concat ?_, List.prefix_append _ _, rfl⟩
      apply hcount pre _ (hpre.trans hpre') t rfl
      rw [PumpLaunchpadStorage.bucket_afterEvents]
      exact Option.mem_map.mpr ⟨hist, hof, rfl⟩)
    (hlaunch.of_prefix hpre') hof
  cases hlater.symm.trans hof'
  exact hrel

/-- **When the counters mean what the gates assume.** -/
theorem tapeFaithful_of_countable (hlaunch : NotRelaunched poolPda es)
    (hcount : Countable poolPda sniperThreshold es) (hlen : es.length < 2 ^ 64) :
    TapeFaithful poolPda sniperThreshold es := by
  have snapshot : ∀ pre, pre <+: es → ∀ key, ∀ hist ∈ TokenHistory.of poolPda key pre,
      hist.trades = processedTrades poolPda key pre ∧ hist.Counted sniperThreshold ∧
        hist.trades.length < 2 ^ 64 := by
    intro pre hpre key hist hof
    have hlaunch : NotRelaunched poolPda pre := hlaunch.of_prefix hpre
    have hcount : Countable poolPda sniperThreshold pre := hcount.of_prefix hpre
    exact ⟨hlaunch.trades_eq poolPda key hist hof, hcount.counted poolPda key hist hof,
      ((length_trades_le poolPda key hist hof).trans hpre.length_le).trans_lt hlen⟩
  constructor
  · intro pre hpre key b hb
    rw [PumpLaunchpadStorage.lookup_afterEvents] at hb
    obtain ⟨hist, hof, rfl⟩ := Option.mem_map.mp hb
    obtain ⟨htrades, hcounted, hfits⟩ := snapshot pre hpre key hist hof
    obtain ⟨p, hp, hbuyers, hsplit, -⟩ := hcounted.snapshot_spec hfits
    rw [← htrades]
    exact ⟨p, hp, hcounted.toFinset_participants, hbuyers.trans hcounted.card_buyers.symm, hsplit⟩
  · intro pre pre' hlonger hpre' key b hb b' hb' p hp p' hp'
    rw [PumpLaunchpadStorage.lookup_afterEvents] at hb hb'
    obtain ⟨hist, hof, rfl⟩ := Option.mem_map.mp hb
    obtain ⟨hist', hof', rfl⟩ := Option.mem_map.mp hb'
    obtain ⟨htrades, hcounted, hfits⟩ := snapshot pre (hlonger.trans hpre') key hist hof
    obtain ⟨htrades', hcounted', hfits'⟩ := snapshot pre' hpre' key hist' hof'
    obtain ⟨hgrow, hmore, hcreator⟩ := hist_grows poolPda hlaunch hcount hlonger hpre' key hof hof'
    obtain ⟨_, hsnap, hbuyers, -, hvolume, hsells, hevents⟩ := hcounted.snapshot_spec hfits
    obtain ⟨_, hsnap', hbuyers', -, hvolume', hsells', hevents'⟩ := hcounted'.snapshot_spec hfits'
    cases hp.symm.trans hsnap
    cases hp'.symm.trans hsnap'
    have hcard := hcounted.card_buyers
    have hcard' := hcounted'.card_buyers
    have hsubset := buyers_mono (hist.bucket sniperThreshold).pool.creators hmore
    have hcreators : (hist'.bucket sniperThreshold).pool.creators =
        (hist.bucket sniperThreshold).pool.creators := by
      rw [(hist.bucket_spec sniperThreshold).2.2.1, (hist'.bucket_spec sniperThreshold).2.2.1,
        hcreator]
    rw [hcreators] at hcard'
    rw [← htrades, ← htrades', hcreators]
    refine ⟨?_, ?_, ?_, ?_, ?_⟩
    · rw [hbuyers, hbuyers', ← hcard, ← hcard']
      exact Finset.card_le_card hsubset
    · rw [hvolume, hvolume']
      exact sum_otherRows_le hgrow _ (fun row => row.2.totalSpent.toFloat_nonneg)
        fun _ _ _ hv hne => hv.spent hne
    · rw [hsells, hsells']
      exact min_le_min_right _
        (sum_otherRows_le hgrow _ (fun _ => Nat.zero_le _) fun _ _ _ hv _ => hv.proceeds)
    · rw [hevents, hevents']
      exact sum_otherRows_le hgrow _ (fun _ => Nat.zero_le _) fun _ _ _ hv _ => hv.sells
    · rw [EarlyTapePoint.newBuyers, hbuyers, hbuyers', ← hcard, ← hcard',
        Finset.card_sdiff_of_subset hsubset]

end

/-! ## Two streams -/

/-- Wallet 9 buys five units and sells them again. -/
theorem tapeFaithful_of_roundTrip :
    TapeFaithful id 10 [(100, launchOfSeven), (101, .trade (tradeOfSeven true 9 5 1)),
      (130, .trade (tradeOfSeven false 9 5 1))] := by
  refine tapeFaithful_of_countable id
    (((NotRelaunched.launch 100 launchOfSeven).trade 101 _).trade 130 _) ?_ (by decide)
  have hlaunch : Countable id 10 [(100, launchOfSeven)] := by
    refine Along.append_singleton.mpr ⟨Along.nil, ?_⟩
    intro t ht
    cases ht
  have hbuy : Countable id 10 [(100, launchOfSeven), (101, .trade (tradeOfSeven true 9 5 1))] := by
    refine Along.append_singleton.mpr ⟨hlaunch, ?_⟩
    intro t ht b hb
    cases ht
    cases hb
    refine ⟨by decide, ?_, ?_, ?_⟩
    · intro _ _
      decide
    · intro _ trader htrader
      cases htrader
    · intro _ trader htrader
      cases htrader
  refine Along.append_singleton.mpr ⟨hbuy, ?_⟩
  intro t ht b hb
  cases ht
  cases hb
  refine ⟨by decide, ?_, ?_, ?_⟩
  · intro _ hnone
    cases hnone
  · intro _ trader htrader _ _
    cases htrader
    decide
  · intro _ trader htrader h
    cases htrader
    cases h

/-- **A wallet that only sells counts as a buyer.** Wallet 9 sells five units that it got by
transfer: the tape shows one buyer, and one holder. -/
theorem seller_counts_as_buyer :
    ¬ TapeFaithful id 10 [(100, launchOfSeven), (101, .trade (tradeOfSeven false 9 5 1))] := by
  intro h
  obtain ⟨p, hp, -, hcount, -⟩ := h.counts _ List.prefix_rfl 7 _ rfl
  cases hp
  revert hcount
  decide

end Loggaper
