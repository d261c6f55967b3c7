import Loggaper.Autobuy.ExitEngine
import Loggaper.Launchpads.Pump.Launchpad

/-!
# The early tape of a token

`snapshotEarlyTape` samples a bucket: how many wallets other than the creator have traded, how many
of them still hold, what they paid and what they got from sells. `evaluateContinuation` compares two
or more samples before a buy. Counters are `u64` and wrap where the source adds with `+=`.
-/

namespace Loggaper

def lamportsToSol (raw : ℕ) : ℚ := (Amount.fromRaw raw 9).toFloat

/-- The counters of `snapshot_early_tape` while it scans the traders. -/
structure TapeCounts where
  stillLong : ℕ
  alreadySold : ℕ
  buyVolumeSol : ℚ
  cumSellRaw : ℕ
  cumSellEvents : ℕ

namespace TapeCounts

def zero : TapeCounts := ⟨0, 0, 0, 0, 0⟩

def scan (c : TapeCounts) (row : Address × Trader) : TapeCounts :=
  let spent := row.2.totalSpent.toFloat
  let holds : Bool := 0 < row.2.currentHoldings.raw
  { buyVolumeSol := c.buyVolumeSol + spent
    stillLong := if holds then (c.stillLong + 1) % 2 ^ 64 else c.stillLong
    alreadySold := if !holds && 0 < spent then (c.alreadySold + 1) % 2 ^ 64 else c.alreadySold
    cumSellRaw := min (c.cumSellRaw + row.2.sellProceedsRaw) u64Max
    cumSellEvents := (c.cumSellEvents + row.2.sellEventCount) % 2 ^ 64 }

end TapeCounts

/-- The rows that the tape counts: regulars, then snipers. -/
def TokenBucket.participants (b : TokenBucket) : List (Address × Trader) :=
  b.tradersByType .regular ++ b.tradersByType .sniper

/-- `none` where the market cap divides by zero. -/
def snapshotEarlyTape (b : TokenBucket) : Option EarlyTapePoint := do
  let counts := b.participants.foldl TapeCounts.scan .zero
  let mcap ← b.pool.marketCap
  some {
    buyerCount := b.participants.length % 2 ^ 64
    stillLong := counts.stillLong
    alreadySold := counts.alreadySold
    buyVolumeSol := counts.buyVolumeSol
    cumSellRaw := counts.cumSellRaw
    cumSellEvents := counts.cumSellEvents
    mcapSol := mcap.amount.toFloat }

/-! ## Early buyers -/

structure EarlyBuyersSnapshot where
  regulars : List Address
  snipers : List Address

/-- The wallets that a buy signal names. -/
def EarlyBuyersSnapshot.all (s : EarlyBuyersSnapshot) : List Address := s.regulars ++ s.snipers

/-- The addresses of `snapshot_early_buyers`. The swarm is asked twice, and trades may come in
between. -/
def snapshotEarlyBuyers (regularsAt snipersAt : TokenBucket) : EarlyBuyersSnapshot where
  regulars := (regularsAt.tradersByType .regular).map Prod.fst
  snipers := (snipersAt.tradersByType .sniper).map Prod.fst

/-! ## Continuation -/

/-- The second look after a failed confirmation. -/
structure ContinuationSecondLookConfig where
  enabled : Bool := true
  waitMs : ℕ := 1250
  recheckWindowMs : ℕ := 1200
  recheckSlices : ℕ := 3
  minScore : ℤ := 10

/-- An A+ without smart money that is bought near a high peak. -/
structure ContinuationAplusPeakGuardConfig where
  enabled : Bool := true
  nearPeakRatio : ℚ := 97 / 100
  minMcapSol : ℚ := 90
  strongUpticks : ℕ := 2
  strongNewBuyers : ℕ := 2
  recheckMinVsPeakRatio : ℚ := 39 / 50

structure ContinuationConfig where
  enabled : Bool := false
  secondLook : ContinuationSecondLookConfig := {}
  aplusPeakGuard : ContinuationAplusPeakGuardConfig := {}
  confirmWindowMs : ℕ := 1500
  confirmSlices : ℕ := 2
  minUpticks : ℕ := 1
  minNewUniqueBuyers : ℕ := 1
  maxB2sDropRatio : ℚ := 3 / 5
  maxSellAbsorptionRatio : ℚ := 3 / 2
  minBuysPerSec : ℚ := 0

/-- New unique buyers since the scoring window. -/
def EarlyTapePoint.newBuyers (last : EarlyTapePoint) (baselineBuyerCount : ℕ) : ℕ :=
  last.buyerCount - baselineBuyerCount

/-- Slices of the window that close above the one before. -/
def upticks (confirm : List EarlyTapePoint) : ℕ :=
  (confirm.zip confirm.tail).countP fun w => w.1.mcapSol < w.2.mcapSol

def evaluateContinuation (cfg : ContinuationConfig) (baselineB2s : ℚ) (baselineBuyerCount : ℕ)
    (confirm : List EarlyTapePoint) (windowMs : ℕ) (isAPlus : Bool) : Except String Unit :=
  match confirm with
  | [] | [_] => .error "cont_no_data"
  | first :: second :: rest =>
    let last := (second :: rest).getLast (List.cons_ne_nil _ _)
    let newBuyers := last.newBuyers baselineBuyerCount
    let secs : ℚ := (max windowMs 1 : ℕ) / 1000
    let buyDelta := max (last.buyVolumeSol - first.buyVolumeSol) 0
    let sellDeltaSol := lamportsToSol (last.cumSellRaw - first.cumSellRaw)
    -- no sells in the window: the ratio is as healthy as the baseline
    let confirmB2s :=
      if 0 < sellDeltaSol then buyDelta / sellDeltaSol
      else if 0 < buyDelta then baselineB2s else 0
    if upticks confirm < cfg.minUpticks ∧ last.mcapSol < first.mcapSol then
      .error "cont_no_uptick"
    else if newBuyers < cfg.minNewUniqueBuyers then .error "cont_no_new_buyers"
    else if 0 < cfg.minBuysPerSec ∧ newBuyers / secs < cfg.minBuysPerSec then
      .error "cont_low_buys_per_sec"
    else if 0 < buyDelta ∧ cfg.maxSellAbsorptionRatio < sellDeltaSol / buyDelta then
      .error "cont_sell_absorption"
    else if 0 < baselineB2s ∧ confirmB2s < baselineB2s * cfg.maxB2sDropRatio ∧
        ¬ (isAPlus = true ∧ first.mcapSol < last.mcapSol) then
      .error "cont_b2s_worsening"
    else .ok ()

/-! ## What a scan adds up -/

namespace TapeCounts

/-- A trader who holds nothing and has paid something. -/
def exited (t : Trader) : Bool := t.currentHoldings.raw == 0 && 0 < t.totalSpent.toFloat

theorem foldl_scan_eq (rows : List (Address × Trader)) :
    rows.foldl scan zero =
      { stillLong := rows.countP (fun row => 0 < row.2.currentHoldings.raw) % 2 ^ 64
        alreadySold := rows.countP (fun row => exited row.2) % 2 ^ 64
        buyVolumeSol := (rows.map fun row => row.2.totalSpent.toFloat).sum
        cumSellRaw := min (rows.map fun row => row.2.sellProceedsRaw).sum u64Max
        cumSellEvents := (rows.map fun row => row.2.sellEventCount).sum % 2 ^ 64 } := by
  induction rows using List.reverseRecOn with
  | nil => rfl
  | append_singleton rows row ih =>
    rw [List.foldl_append, ih]
    simp only [List.foldl_cons, List.foldl_nil, scan, List.countP_append, List.map_append,
      List.sum_append, List.map_singleton, List.sum_singleton, List.countP_singleton, mk.injEq]
    refine ⟨?_, ?_, trivial, by omega, by omega⟩
    · by_cases hholds : 0 < row.2.currentHoldings.raw
      · simp only [hholds, decide_true, if_true]
        omega
      · simp [hholds]
    · by_cases hholds : 0 < row.2.currentHoldings.raw
      · have hne : row.2.currentHoldings.raw ≠ 0 := by omega
        simp [hholds, exited, hne]
      · have hzero : row.2.currentHoldings.raw = 0 := by omega
        by_cases hspent : 0 < row.2.totalSpent.toFloat
        · simp only [hzero, exited, hspent, lt_irrefl, decide_false, decide_true, Bool.not_false,
            Bool.and_self, beq_self_eq_true, if_true]
          omega
        · simp [hzero, exited, hspent]

end TapeCounts

/-! ## A signal names distinct early buyers -/

/-- The bucket after some trades. -/
def TokenBucket.after (sniperThreshold : UInt64) (b : TokenBucket)
    (trades : List (Slot × TradeEvent)) : TokenBucket :=
  trades.foldl (fun b t => b.trade sniperThreshold t.1 t.2) b

/-- The type of an account never changes. -/
def SameType (t t' : Trader) : Prop := t'.traderType = t.traderType

theorem grows_after (sniperThreshold : UInt64) {b : TokenBucket} {s : Swarm}
    (hswarm : b.swarm = some s) (htidy : s.Tidy) (trades : List (Slot × TradeEvent)) :
    ∃ s', (b.after sniperThreshold trades).swarm = some s' ∧ s'.Tidy ∧
      Grows SameType s.traders s'.traders := by
  induction trades generalizing b s with
  | nil => exact ⟨s, hswarm, htidy, .refl (R := SameType) (fun _ => rfl) _⟩
  | cons t trades ih =>
    obtain ⟨slot, e⟩ := t
    set role := b.role sniperThreshold slot e.user
    obtain ⟨hupdate, htidy'⟩ := htidy.update e role
    have hswarm' : (b.trade sniperThreshold slot e).swarm = some (s.after e role) := by
      simp only [TokenBucket.trade, hswarm, Option.bind_some]
      exact hupdate
    obtain ⟨s', hs', htidy'', hgrows⟩ := ih hswarm' htidy'
    have hone : Grows SameType s.traders (s.after e role).traders :=
      .upsert (R := SameType) (fun _ => rfl) _ fun t ht => ((htidy.rows _ ht).after_spec e).2.2.1
    exact ⟨s', hs', htidy'', hone.trans (R := SameType) (fun _ _ _ h h' => Eq.trans h' h) hgrows⟩

/-- **The early buyers of a signal are distinct wallets**, whatever trades come between the two
questions. -/
theorem nodup_snapshotEarlyBuyers (sniperThreshold : UInt64) {b : TokenBucket} {s : Swarm}
    (hswarm : b.swarm = some s) (htidy : s.Tidy) (trades : List (Slot × TradeEvent)) :
    (snapshotEarlyBuyers b (b.after sniperThreshold trades)).all.Nodup := by
  obtain ⟨s', hs', htidy', hgrows⟩ := grows_after sniperThreshold hswarm htidy trades
  simp only [snapshotEarlyBuyers, EarlyBuyersSnapshot.all, TokenBucket.tradersByType, hswarm, hs',
    Option.elim_some, Swarm.tradersByType]
  rw [List.nodup_append]
  refine ⟨htidy.addresses.sublist (List.filter_sublist.map _),
    htidy'.addresses.sublist (List.filter_sublist.map _), ?_⟩
  intro a ha a' ha' heq
  obtain ⟨⟨k, t⟩, hrow, rfl⟩ := List.mem_map.mp ha
  obtain ⟨⟨k', t'⟩, hrow', rfl⟩ := List.mem_map.mp ha'
  obtain rfl : k = k' := heq
  obtain ⟨hmem, hregular⟩ := List.mem_filter.mp hrow
  obtain ⟨hmem', hsniper⟩ := List.mem_filter.mp hrow'
  -- the account that answered as a regular is still one
  obtain ⟨t'', hmem'', hsame⟩ := hgrows.exists_of_mem hmem
  have hrows : (k, t'') = (k, t') :=
    List.inj_on_of_nodup_map htidy'.addresses hmem'' hmem' rfl
  cases hrows
  rw [SameType] at hsame
  simp_all

end Loggaper
