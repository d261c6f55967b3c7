import Loggaper.Scoring.ScoreEngine

/-!
# The continuation stage

After a token has its score the pipeline watches the tape a little longer. A buy whose confirmation
window fails is skipped, or, for a strong setup and for some fragile ones, looked at a second time
after a wait; an A+ bought near its peak waits in any case.

- `minNewBuyers_le_of_error`: what a failure for selling says about the buyers.
- `skipped_iff`: when the second look skips. It counts new buyers from the scoring window on, so
  those of the first window are still new to it.
- `rejectsStale_iff`: when it skips an entry whose tape does not recover.
-/

namespace Loggaper

/-! ## The observed window -/

structure EarlyTapeObserveResult where
  points : List EarlyTapePoint
  initialMcapSol : ℚ
  peakMcapSol : ℚ
  currentMcapSol : ℚ

def finalizeTapeObserve (points : List EarlyTapePoint) : EarlyTapeObserveResult :=
  let initialMcapSol := points.head?.elim 0 (·.mcapSol)
  let peakMcapSol := (points.map (·.mcapSol)).foldl max initialMcapSol
  { points, initialMcapSol, peakMcapSol
    currentMcapSol := points.getLast?.elim peakMcapSol (·.mcapSol) }

/-! ## Gates of the stage -/

structure WeakATierGateConfig where
  enabled : Bool := true
  maxScore : ℤ := 7
  maxSmartWallets : ℕ := 0
  blockDevNeutral : Bool := true
  blockDevHistoryWeak : Bool := true
  continuationSecondLookMaxScore : ℤ := 7

/-- An A+ at a high market cap near its peak, without smart wallets. -/
def aplusPeakNoSmartGuard (cfg : ContinuationAplusPeakGuardConfig) (isAPlus : Bool)
    (smartCount : ℕ) (currentMcap peakMcap : ℚ) : Bool :=
  if !cfg.enabled || !isAPlus || 0 < smartCount then false
  else if peakMcap < cfg.minMcapSol ∨ currentMcap < cfg.minMcapSol then false
  else decide (0 < peakMcap) && decide (peakMcap * cfg.nearPeakRatio ≤ currentMcap)

/-- No collapse against the peak of the scoring window. -/
def aplusPeakRecheckMcapAcceptable (cfg : ContinuationAplusPeakGuardConfig)
    (scorePeakMcap scoreCurrentMcap recheckMcap : ℚ) : Bool :=
  if !cfg.enabled || decide (recheckMcap ≤ 0) then 0 < recheckMcap
  else
    let anchor := max scorePeakMcap scoreCurrentMcap
    if anchor ≤ 0 then true else anchor * cfg.recheckMinVsPeakRatio ≤ recheckMcap

/-- `(upticks, new_unique_buyers)` of a poll. -/
def continuationStrength (confirm : List EarlyTapePoint) (baselineBuyerCount : ℕ) : ℕ × ℕ :=
  if confirm.length < 2 then (0, 0)
  else (upticks confirm, confirm.getLast?.elim 0 (·.newBuyers baselineBuyerCount))

def continuationConfirmStrong (cfg : ContinuationAplusPeakGuardConfig)
    (confirm : List EarlyTapePoint) (baselineBuyerCount : ℕ) : Bool :=
  match confirm with
  | [] | [_] => false
  | first :: second :: rest =>
    let last := (second :: rest).getLast (List.cons_ne_nil _ _)
    if last.mcapSol < first.mcapSol then false
    else
      let (upticks, newBuyers) := continuationStrength confirm baselineBuyerCount
      decide (cfg.strongUpticks ≤ upticks) && decide (cfg.strongNewBuyers ≤ newBuyers)

/-- Low score, no smart wallets, and a developer without a good record. -/
def weakAProfileMatch (cfg : WeakATierGateConfig) (tier : Tier) (score : ℤ)
    (smartWalletCount : ℕ) (devCategory : DevCategory) (items : ScoreItems) : Bool :=
  if !cfg.enabled || tier != .a then false
  else if cfg.maxScore < score ∨ cfg.maxSmartWallets < smartWalletCount then false
  else (cfg.blockDevNeutral && (devCategory == .neutral || devCategory == .stale)) ||
    (cfg.blockDevHistoryWeak && items.any (·.1 == "dev_history_weak"))

/-- Whether a strong setup may look again after this failure. -/
def continuationSecondLookEligible (cfg : ContinuationSecondLookConfig) (isAPlus : Bool)
    (score : ℤ) (firstFailReason : String) : Bool :=
  if !cfg.enabled || !(isAPlus || decide (cfg.minScore ≤ score)) then false
  else firstFailReason == "cont_b2s_worsening" || firstFailReason == "cont_sell_absorption" ||
    (firstFailReason == "cont_no_uptick" && isAPlus)

/-- A fragile weak A may do so after any failure. -/
def continuationSecondLookEligibleForBuy (slCfg : ContinuationSecondLookConfig)
    (weakCfg : WeakATierGateConfig) (tier : Tier) (isAPlus : Bool) (score : ℤ)
    (smartWalletCount : ℕ) (f : TokenFeatures) (items : ScoreItems) (firstFailReason : String) :
    Bool :=
  if continuationSecondLookEligible slCfg isAPlus score firstFailReason then true
  else if !slCfg.enabled || !weakCfg.enabled || tier != .a then false
  else if !weakAProfileMatch weakCfg tier score smartWalletCount f.devCategory items then false
  else score ≤ weakCfg.continuationSecondLookMaxScore

/-- Skip if the market cap keeps falling with no demand, pass if it recovers. -/
def evaluateContinuationSecondLook (refMcapSol : ℚ) (baselineBuyerCount : ℕ)
    (recheck : List EarlyTapePoint) : Except String Unit :=
  match recheck with
  | [] | [_] => .error "cont_second_look_no_data"
  | first :: second :: rest =>
    let last := (second :: rest).getLast (List.cons_ne_nil _ _)
    let (upticks, newBuyers) := continuationStrength recheck baselineBuyerCount
    if last.mcapSol < refMcapSol ∧ last.mcapSol < first.mcapSol ∧ upticks = 0 ∧ newBuyers = 0 then
      .error "cont_second_look_mcap_fall"
    else if refMcapSol < last.mcapSol ∨ 1 ≤ upticks ∨ 1 ≤ newBuyers then .ok ()
    else .error "cont_second_look_no_recovery"

/-! ## The stage -/

/-- A scored token on its way to the buy. -/
structure ScoredEntry where
  features : TokenFeatures
  breakdown : ScoreBreakdown
  smartCount : ℕ
  currentMcapSol : ℚ
  peakMcapSol : ℚ

namespace ScoredEntry

variable (cfg : ContinuationConfig) (weakCfg : WeakATierGateConfig) (entry : ScoredEntry)

def baselineBuyers : ℕ := entry.features.buyerCount

def isAPlus : Bool := entry.breakdown.tier == .aPlus

def continuation (points : List EarlyTapePoint) : Except String Unit :=
  evaluateContinuation cfg entry.features.buyToSellRatio entry.baselineBuyers points
    cfg.confirmWindowMs entry.isAPlus

def eligible (reason : String) : Bool :=
  continuationSecondLookEligibleForBuy cfg.secondLook weakCfg entry.breakdown.tier entry.isAPlus
    entry.breakdown.total entry.smartCount entry.features entry.breakdown.items reason

/-- The skip reason after a failed confirmation, with a second look if the entry may have one. -/
def secondLookSkipReason (confirm recheck : EarlyTapeObserveResult) (reason : String) :
    Option String :=
  if entry.eligible cfg weakCfg reason then
    match evaluateContinuationSecondLook confirm.currentMcapSol entry.baselineBuyers
      recheck.points with
    | .ok () => none
    | .error slReason => some slReason
  else some reason

/-- The same for an A+ that has waited near its peak. -/
def peakRecheckSkipReason (recheck : EarlyTapeObserveResult) : Option String :=
  let collapsed :=
    if aplusPeakRecheckMcapAcceptable cfg.aplusPeakGuard entry.peakMcapSol entry.currentMcapSol
      recheck.currentMcapSol then none
    else some "aplus_peak_recheck_mcap_drop"
  match entry.continuation cfg recheck.points with
  | .ok () => collapsed
  | .error reason =>
    match entry.secondLookSkipReason cfg weakCfg recheck recheck reason with
    | none => collapsed
    | some slReason => some slReason

def needsPeakDefer (confirm : EarlyTapeObserveResult) : Bool :=
  aplusPeakNoSmartGuard cfg.aplusPeakGuard entry.isAPlus entry.smartCount entry.currentMcapSol
      entry.peakMcapSol &&
    (!(entry.continuation cfg confirm.points).isOk ||
      !continuationConfirmStrong cfg.aplusPeakGuard confirm.points entry.baselineBuyers)

/-- Why the stage skips the entry, if it does. `recheck` is what the second window shows, if there
is one. -/
def continuationSkipReason (confirm recheck : EarlyTapeObserveResult) : Option String :=
  if entry.needsPeakDefer cfg confirm then entry.peakRecheckSkipReason cfg weakCfg recheck
  else
    match entry.continuation cfg confirm.points with
    | .ok () => none
    | .error reason => entry.secondLookSkipReason cfg weakCfg confirm recheck reason

end ScoredEntry

/-! ## A second look at a tape that does not recover -/

/-- The two failures for selling, which a strong setup may survive. -/
def FailsForSelling (reason : String) : Prop :=
  reason = "cont_b2s_worsening" ∨ reason = "cont_sell_absorption"

/-- Nothing new after the confirmation window: nobody joins, no slice rises, and the tape closes no
higher than the window did. -/
structure NoRecovery (confirm recheck : List EarlyTapePoint) : Prop where
  no_buyer : ∀ p ∈ recheck, ∀ q ∈ confirm.getLast?, p.buyerCount ≤ q.buyerCount
  no_uptick : upticks recheck = 0
  no_rise : ∀ p ∈ recheck.getLast?, ∀ q ∈ confirm.getLast?, p.mcapSol ≤ q.mcapSol

section
variable {cfg : ContinuationConfig} {baselineB2s : ℚ} {baseline windowMs : ℕ}
  {confirm recheck : List EarlyTapePoint} {isAPlus : Bool} {reason : String}

/-- The buyers were counted, and were enough, before the sells were. -/
theorem minNewBuyers_le_of_error
    (h : evaluateContinuation cfg baselineB2s baseline confirm windowMs isAPlus = .error reason)
    (hreason : FailsForSelling reason) :
    ∃ last ∈ confirm.getLast?, cfg.minNewUniqueBuyers ≤ last.newBuyers baseline := by
  unfold FailsForSelling at hreason
  match confirm with
  | [] =>
    cases h
    exact absurd hreason (by decide)
  | [_] =>
    cases h
    exact absurd hreason (by decide)
  | first :: second :: rest =>
    simp only [evaluateContinuation] at h
    by_cases huptick : upticks (first :: second :: rest) < cfg.minUpticks ∧
        ((second :: rest).getLast (List.cons_ne_nil _ _)).mcapSol < first.mcapSol
    · rw [if_pos huptick] at h
      cases h
      exact absurd hreason (by decide)
    rw [if_neg huptick] at h
    by_cases hbuyers : ((second :: rest).getLast (List.cons_ne_nil _ _)).newBuyers baseline <
        cfg.minNewUniqueBuyers
    · rw [if_pos hbuyers] at h
      cases h
      exact absurd hreason (by decide)
    · refine ⟨_, ?_, not_lt.mp hbuyers⟩
      rw [Option.mem_def, List.getLast?_cons_cons, List.getLast?_eq_some_getLast]

/-- A buyer since the scoring window is a recovery. -/
theorem evaluateContinuationSecondLook_of_newBuyers {ref : ℚ} {last : EarlyTapePoint}
    (hlen : 2 ≤ recheck.length) (hlast : last ∈ recheck.getLast?)
    (hbuyers : 1 ≤ last.newBuyers baseline) :
    evaluateContinuationSecondLook ref baseline recheck = .ok () := by
  match recheck with
  | [] => cases hlast
  | [_] => exact absurd hlen (by simp)
  | first :: second :: rest =>
    have hstrength : (continuationStrength (first :: second :: rest) baseline).2 =
        last.newBuyers baseline := by
      rw [continuationStrength, if_neg (by simp), Option.mem_def.mp hlast]
      rfl
    simp only [evaluateContinuationSecondLook, hstrength]
    rw [if_neg (by omega), if_pos (.inr (.inr hbuyers))]

theorem evaluateContinuationSecondLook_of_short {ref : ℚ} (hlen : recheck.length < 2) :
    evaluateContinuationSecondLook ref baseline recheck = .error "cont_second_look_no_data" := by
  match recheck with
  | [] => rfl
  | [_] => rfl
  | _ :: _ :: _ => exact absurd hlen (by simp)

end

namespace ScoredEntry

variable (cfg : ContinuationConfig) (weakCfg : WeakATierGateConfig) (entry : ScoredEntry)
  (confirm recheck : List EarlyTapePoint)

/-- Whoever made the first window pass its buyer count is a new buyer to the second look, whatever
the tape does after it. -/
theorem skipped_iff (hmin : 1 ≤ cfg.minNewUniqueBuyers)
    (hcounts : (confirm ++ recheck).Pairwise (·.buyerCount ≤ ·.buyerCount)) {reason : String}
    (hfail : entry.continuation cfg confirm = .error reason) (hreason : FailsForSelling reason) :
    (entry.secondLookSkipReason cfg weakCfg (finalizeTapeObserve confirm)
        (finalizeTapeObserve recheck) reason).isSome = true ↔
      entry.eligible cfg weakCfg reason = false ∨ recheck.length < 2 := by
  obtain ⟨last, hlast, hbuyers⟩ := minNewBuyers_le_of_error hfail hreason
  unfold secondLookSkipReason
  cases heligible : entry.eligible cfg weakCfg reason with
  | false => exact iff_of_true rfl (.inl rfl)
  | true =>
    rw [if_pos rfl]
    by_cases hlen : recheck.length < 2
    · rw [show (finalizeTapeObserve recheck).points = recheck from rfl,
        evaluateContinuationSecondLook_of_short hlen]
      exact iff_of_true rfl (.inr hlen)
    · have hne : recheck ≠ [] := by
        intro hnil
        rw [hnil] at hlen
        exact hlen (by simp)
      -- the counts do not fall, so the last sample has the buyers of the first window
      have hgrown : last.newBuyers entry.baselineBuyers ≤
          (recheck.getLast hne).newBuyers entry.baselineBuyers := by
        have hle := (List.pairwise_append.mp hcounts).2.2 last (List.mem_of_getLast? hlast)
          (recheck.getLast hne) (List.getLast_mem hne)
        exact Nat.sub_le_sub_right hle _
      rw [show (finalizeTapeObserve recheck).points = recheck from rfl,
        evaluateContinuationSecondLook_of_newBuyers (not_lt.mp hlen)
          (List.getLast?_eq_some_getLast hne) (hmin.trans (hbuyers.trans hgrown))]
      exact iff_of_false Bool.false_ne_true (by simp [hlen])

/-- An entry that fails for selling and does not recover is skipped. -/
def RejectsStale : Prop :=
  ∀ reason, entry.continuation cfg confirm = .error reason → FailsForSelling reason →
    NoRecovery confirm recheck →
    (entry.secondLookSkipReason cfg weakCfg (finalizeTapeObserve confirm)
      (finalizeTapeObserve recheck) reason).isSome = true

/-- **A second look without a recovery** skips the entry exactly where the look is not taken or has
no tape. -/
theorem rejectsStale_iff (hmin : 1 ≤ cfg.minNewUniqueBuyers)
    (hcounts : (confirm ++ recheck).Pairwise (·.buyerCount ≤ ·.buyerCount)) :
    entry.RejectsStale cfg weakCfg confirm recheck ↔
      ∀ reason, entry.continuation cfg confirm = .error reason → FailsForSelling reason →
        NoRecovery confirm recheck →
        entry.eligible cfg weakCfg reason = false ∨ recheck.length < 2 := by
  unfold RejectsStale
  refine forall_congr' fun reason => forall_congr' fun hfail => forall_congr' fun hreason => ?_
  rw [skipped_iff cfg weakCfg entry confirm recheck hmin hcounts hfail hreason]

/-- An A of score 10 with 30 early buyers. -/
def strongA : ScoredEntry where
  features := assemble 1 2 none .neutral {} 80 88 88 ⟨[], []⟩ 30 0 20 25 5 .empty 0 {}
  breakdown := ⟨10, [], .a, 3 / 10, false, false, false⟩
  smartCount := 0
  currentMcapSol := 88
  peakMcapSol := 88

/-- A sample with 31 buyers, 20 SOL bought and nothing sold. -/
def sampleAt (mcapSol : ℚ) : EarlyTapePoint := ⟨31, 25, 5, 20, 0, 0, mcapSol⟩

theorem rejectsStale_iff_strongA :
    strongA.RejectsStale {} {} [sampleAt 88, sampleAt 90] [sampleAt 89] ↔
      ∀ reason, strongA.continuation {} [sampleAt 88, sampleAt 90] = .error reason →
        FailsForSelling reason → NoRecovery [sampleAt 88, sampleAt 90] [sampleAt 89] →
        strongA.eligible {} {} reason = false ∨ [sampleAt 89].length < 2 :=
  rejectsStale_iff {} {} strongA _ _ le_rfl (by simp [sampleAt])

/-- **A falling tape that is bought.** One buyer joins in the confirmation window and none after it,
and the market cap falls from 90 to 70. -/
theorem stale_passed :
    ¬ strongA.RejectsStale {} {} [sampleAt 88, sampleAt 90] [sampleAt 80, sampleAt 70] := by
  intro hrejects
  have hstale : NoRecovery [sampleAt 88, sampleAt 90] [sampleAt 80, sampleAt 70] := by
    refine ⟨?_, by decide +kernel, ?_⟩
    · simp [sampleAt]
    · simp [sampleAt]
      norm_num
  have hskip := hrejects "cont_b2s_worsening" (by decide +kernel) (.inl rfl) hstale
  exact absurd hskip (by decide +kernel)

end ScoredEntry

end Loggaper
