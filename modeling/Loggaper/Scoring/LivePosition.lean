import Loggaper.Scoring.TokenFeatures

/-!
# Live snapshots

`snapshotLivePosition` samples the bucket of an open position and compares the sample with the tape
that the position had. The swarm is asked several times, and trades may come in between.

- `counters_tapePoint_mono`: a sample whose parts are read later counts no less.
- `GrowingHistory.counters_between`: a sample of two states counts what lies between them.
- `before_trade`: a trade lets no counter of the bucket fall.
-/

namespace Loggaper

/-! ## The sample -/

/-- The tape of these traders at a market cap. -/
def tapePoint (rows : List (Address × Trader)) (mcapSol : ℚ) : EarlyTapePoint :=
  let counts := rows.foldl TapeCounts.scan .zero
  { buyerCount := rows.length % 2 ^ 64
    stillLong := counts.stillLong
    alreadySold := counts.alreadySold
    buyVolumeSol := counts.buyVolumeSol
    cumSellRaw := counts.cumSellRaw
    cumSellEvents := counts.cumSellEvents
    mcapSol := mcapSol }

theorem snapshotEarlyTape_eq (b : TokenBucket) :
    snapshotEarlyTape b =
      b.pool.marketCap.map fun mcap => tapePoint b.participants mcap.amount.toFloat := by
  unfold snapshotEarlyTape
  cases b.pool.marketCap <;> rfl

/-- What a snapshot is told: the bucket as it stands at each question to the swarm, the wallets that
the smart-money registry picks out at each question to it (none without a registry), and the market
cap of the bucket that was cached. -/
structure LiveReads where
  bucket : ℕ → TokenBucket
  smart : ℕ → List Address → List Address
  mcapSol : ℚ

namespace LiveReads

variable (reads : LiveReads)

/-- The answers to the questions `k` and `k + 1`: regulars, then snipers. -/
def participants (k : ℕ) : List (Address × Trader) :=
  (reads.bucket k).tradersByType .regular ++ (reads.bucket (k + 1)).tradersByType .sniper

/-- The participants who hold tokens. -/
def holding (k : ℕ) : List Address :=
  ((reads.participants k).filter fun row => 0 < row.2.currentHoldings.raw).map Prod.fst

def countSmartWalletsStillLong : ℕ :=
  let addrs := reads.holding 2
  if addrs.isEmpty then 0 else (reads.smart 0 addrs).length % 2 ^ 32

/-- Smart early buyers who hold no longer. -/
def countSmartEarlyExits (earlyBuyers : List Address) : ℕ :=
  if earlyBuyers.isEmpty then 0
  else
    let smartAddrs := reads.smart 1 earlyBuyers
    if smartAddrs.isEmpty then 0
    else smartAddrs.countP (fun a => a ∉ reads.holding 4) % 2 ^ 32

end LiveReads

/-- The current tape point, and what follows from it and the point before. -/
def snapshotLivePosition (tanh : ℚ → ℚ) (reads : LiveReads) (prev : Option EarlyTapePoint)
    (heldSecs : ℕ) (earlyBuyers : List Address) (bundleTolerance : ℚ) : LivePositionSnapshot :=
  let curr := tapePoint (reads.participants 0) reads.mcapSol
  let smartExits := reads.countSmartEarlyExits earlyBuyers
  let dt : ℚ := (max heldSecs 1 : ℕ)
  let derived := ScoringTapeDerived.fromTapePoints tanh (prev.toList ++ [curr]) smartExits
  let bundle := computeBundleStats
    (((reads.participants 6).map fun row => row.2.totalSpent.toFloat).filter (0 < ·))
    bundleTolerance
  { tape := curr
    buyersPerSec :=
      prev.elim (curr.buyerCount / dt) fun p => (curr.buyerCount - p.buyerCount : ℕ) / dt
    holderGrowthRate := prev.elim 0 fun p => (curr.stillLong - p.stillLong : ℕ) / dt
    volumeDelta := prev.elim 0 fun p => (curr.buyVolumeSol - p.buyVolumeSol) / dt
    liquidityDelta := prev.elim 0 fun p => (curr.mcapSol - p.mcapSol) / dt
    smartWalletCount := reads.countSmartWalletsStillLong
    smartWalletExits := smartExits
    buySellRatio :=
      if curr.alreadySold = 0 then curr.stillLong else curr.stillLong / curr.alreadySold
    sellPressureScore := derived.sellPressureScore
    bundleSimilar := bundle.similarSizeRatio
    bundleIdentical := bundle.identicalSizeRatio
    mcapSol := curr.mcapSol }

/-! ## Counters that do not fall -/

/-- The counters of a tape point: buyers, and what came out of sells. -/
def EarlyTapePoint.counters (p : EarlyTapePoint) : ℕ × ℕ := (p.buyerCount, p.cumSellRaw)

/-- The counters of a list of traders. -/
def counters (rows : List (Address × Trader)) : ℕ × ℕ :=
  (rows.length, (rows.map fun row => row.2.sellProceedsRaw).sum)

theorem counters_tapePoint {rows : List (Address × Trader)} (hfits : rows.length < 2 ^ 64)
    (mcapSol : ℚ) :
    (tapePoint rows mcapSol).counters = ((counters rows).1, min (counters rows).2 u64Max) := by
  simp only [EarlyTapePoint.counters, tapePoint, TapeCounts.foldl_scan_eq, counters,
    Nat.mod_eq_of_lt hfits]

/-- No counter of the bucket falls on the way to the other: neither of the regulars nor of the
snipers. -/
def TokenBucket.Before (b b' : TokenBucket) : Prop :=
  counters (b.tradersByType .regular) ≤ counters (b'.tradersByType .regular) ∧
    counters (b.tradersByType .sniper) ≤ counters (b'.tradersByType .sniper)

instance (b b' : TokenBucket) : Decidable (b.Before b') := inferInstanceAs (Decidable (_ ∧ _))

theorem TokenBucket.Before.refl (b : TokenBucket) : b.Before b := ⟨le_rfl, le_rfl⟩

theorem TokenBucket.Before.trans {b b' b'' : TokenBucket} (h : b.Before b') (h' : b'.Before b'') :
    b.Before b'' :=
  ⟨h.1.trans h'.1, h.2.trans h'.2⟩

theorem counters_append (rows rows' : List (Address × Trader)) :
    counters (rows ++ rows') = counters rows + counters rows' := by
  simp [counters]

/-- **A later sample counts no less**, although its two parts are read one after the other. -/
theorem counters_tapePoint_mono {regulars regulars' snipers snipers' : List (Address × Trader)}
    (hregulars : counters regulars ≤ counters regulars')
    (hsnipers : counters snipers ≤ counters snipers')
    (hfits : (regulars' ++ snipers').length < 2 ^ 64) (mcapSol mcapSol' : ℚ) :
    (tapePoint (regulars ++ snipers) mcapSol).counters ≤
      (tapePoint (regulars' ++ snipers') mcapSol').counters := by
  have hle : counters (regulars ++ snipers) ≤ counters (regulars' ++ snipers') := by
    rw [counters_append, counters_append]
    exact ⟨Nat.add_le_add hregulars.1 hsnipers.1, Nat.add_le_add hregulars.2 hsnipers.2⟩
  have hlength : (regulars ++ snipers).length ≤ (regulars' ++ snipers').length := hle.1
  rw [counters_tapePoint (hlength.trans_lt hfits), counters_tapePoint hfits]
  exact ⟨hle.1, min_le_min_right _ hle.2⟩

/-! ## Readings in order -/

/-- A tape point that counts no more than a state of the bucket. -/
def EarlyTapePoint.UpTo (t : EarlyTapePoint) (b : TokenBucket) : Prop :=
  t.counters ≤ (tapePoint b.participants 0).counters

theorem EarlyTapePoint.UpTo.mono {t : EarlyTapePoint} {b b' : TokenBucket} (h : t.UpTo b)
    (hbefore : b.Before b') (hfits : b'.participants.length < 2 ^ 64) : t.UpTo b' :=
  le_trans h (counters_tapePoint_mono hbefore.1 hbefore.2 hfits _ _)

/-- The states of a bucket whose counters never fall. -/
structure GrowingHistory (history : List TokenBucket) : Prop where
  before : history.Pairwise TokenBucket.Before
  fits : ∀ b ∈ history, b.participants.length < 2 ^ 64

namespace GrowingHistory

variable {history : List TokenBucket} {i j : ℕ} {b b' : TokenBucket}

theorem before_of_le (h : GrowingHistory history) (hij : i ≤ j) (hb : history[i]? = some b)
    (hb' : history[j]? = some b') : b.Before b' := by
  obtain ⟨hi, rfl⟩ := List.getElem?_eq_some_iff.mp hb
  obtain ⟨hj, rfl⟩ := List.getElem?_eq_some_iff.mp hb'
  rcases Nat.eq_or_lt_of_le hij with rfl | hlt
  · exact .refl _
  · exact List.pairwise_iff_getElem.mp h.before i j hi hj hlt

/-- The counters of a sample with regulars from one state and snipers from a later one lie between
those of a state before both and of one after both. -/
theorem counters_between (h : GrowingHistory history) {first last : TokenBucket} {k l : ℕ}
    (hki : k ≤ i) (hij : i ≤ j) (hjl : j ≤ l) (hfirst : history[k]? = some first)
    (hb : history[i]? = some b) (hb' : history[j]? = some b') (hlast : history[l]? = some last)
    (mcapSol : ℚ) :
    let t := tapePoint (b.tradersByType .regular ++ b'.tradersByType .sniper) mcapSol
    (tapePoint first.participants 0).counters ≤ t.counters ∧ t.UpTo last := by
  have hbefore := h.before_of_le hij hb hb'
  have hfits : (b.tradersByType .regular ++ b'.tradersByType .sniper).length < 2 ^ 64 := by
    refine lt_of_le_of_lt ?_ (h.fits b' (List.mem_of_getElem? hb'))
    rw [TokenBucket.participants, List.length_append, List.length_append]
    exact Nat.add_le_add_right hbefore.1.1 _
  exact ⟨counters_tapePoint_mono (h.before_of_le hki hfirst hb).1
      (h.before_of_le (hki.trans hij) hfirst hb').2 hfits _ _,
    counters_tapePoint_mono (h.before_of_le (hij.trans hjl) hb hlast).1
      (h.before_of_le hjl hb' hlast).2 (h.fits last (List.mem_of_getElem? hlast)) _ _⟩

theorem concat (h : GrowingHistory history) (hlast : ∀ b ∈ history.getLast?, b.Before b')
    (hfits : b'.participants.length < 2 ^ 64) : GrowingHistory (history ++ [b']) := by
  constructor
  · rw [List.pairwise_append]
    refine ⟨h.before, List.pairwise_singleton _ _, fun b hb c hc => ?_⟩
    rw [List.mem_singleton] at hc
    subst hc
    obtain ⟨i, hi, rfl⟩ := List.mem_iff_getElem.mp hb
    have hne : history ≠ [] := List.ne_nil_of_mem hb
    have hend : history[history.length - 1]? = some (history.getLast hne) := by
      rw [← List.getLast?_eq_getElem?, List.getLast?_eq_some_getLast]
    have hle := h.before_of_le (Nat.le_sub_one_of_lt hi) (List.getElem?_eq_getElem hi) hend
    exact hle.trans (hlast _ (List.getLast?_eq_some_getLast hne))
  · intro c hc
    rcases List.mem_append.mp hc with hc | hc
    · exact h.fits c hc
    · rw [List.mem_singleton] at hc
      subst hc
      exact hfits

end GrowingHistory

/-! ## A trade -/

/-- An account of the same type with no smaller proceeds. -/
def Trader.SellsGrow (t t' : Trader) : Prop :=
  t'.traderType = t.traderType ∧ t.sellProceedsRaw ≤ t'.sellProceedsRaw

theorem counters_le_of_grows {rows rows' : List (Address × Trader)} (traderType : TraderType)
    (h : Grows Trader.SellsGrow rows rows') :
    counters (rows.filter fun row => row.2.traderType == traderType) ≤
      counters (rows'.filter fun row => row.2.traderType == traderType) := by
  induction h with
  | nil new => exact ⟨Nat.zero_le _, Nat.zero_le _⟩
  | @cons k t t' rows rows' ht _ ih =>
    rw [List.filter_cons, List.filter_cons]
    by_cases htype : t.traderType = traderType
    · have htype' : t'.traderType = traderType := ht.1.trans htype
      simp only [htype, htype', beq_self_eq_true, if_true]
      exact ⟨Nat.succ_le_succ ih.1, Nat.add_le_add ht.2 ih.2⟩
    · have htype' : t'.traderType ≠ traderType := by
        rw [ht.1]
        exact htype
      simp only [beq_eq_false_iff_ne.mpr htype, beq_eq_false_iff_ne.mpr htype', Bool.false_eq_true,
        if_false]
      exact ih

/-- **A trade lets no counter fall.** -/
theorem TokenBucket.before_trade (sniperThreshold : UInt64) {b : TokenBucket} {s : Swarm}
    (hswarm : b.swarm = some s) (htidy : s.Tidy) (slot : Slot) (e : TradeEvent) :
    b.Before (b.trade sniperThreshold slot e) := by
  set role := b.role sniperThreshold slot e.user
  have hswarm' : (b.trade sniperThreshold slot e).swarm = some (s.after e role) := by
    simp only [TokenBucket.trade, hswarm, Option.bind_some]
    exact (htidy.update e role).1
  have hgrows : Grows Trader.SellsGrow s.traders (s.after e role).traders := by
    refine .upsert (R := Trader.SellsGrow) (fun t => ⟨rfl, le_rfl⟩) _ fun t ht => ?_
    have hrow : t.Tidy := htidy.rows _ ht
    obtain ⟨-, -, htype, -, -, hproceeds, -⟩ := hrow.after_spec e
    have hle := hrow.proceeds_le
    refine ⟨htype, ?_⟩
    rw [hproceeds]
    split_ifs <;> omega
  unfold TokenBucket.Before TokenBucket.tradersByType
  rw [hswarm, hswarm']
  exact ⟨counters_le_of_grows .regular hgrows, counters_le_of_grows .sniper hgrows⟩

end Loggaper
