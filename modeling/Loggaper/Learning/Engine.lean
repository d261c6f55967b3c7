import Loggaper.Learning.Merge
import Loggaper.Lib.Transition

/-!
# The learning engine

A background loop looks at the closed trades and nudges the stored patch: `buyers_low` up by one
after a bad batch and down by one after a good one, the smart-wallet minimum and the volume
multiplier up. The nudges of the last two stop at the bounds of `merge_thresholds`; those of
`buyers_low` go on.

- `noWindup_iff`: the stored patch stays in effect, and an update the other way has an effect, on
  exactly the runs whose updates keep `buyers_low` off the bound that they move to.
-/

namespace Loggaper

/-! ## One update -/

/-- What the closed trades add up to. -/
structure TradeBatchStats where
  n : ℤ
  wins : ℤ
  winSmart : ℚ
  lossSmart : ℚ
  winBuyers : ℚ
  lossBuyers : ℚ
  deriving DecidableEq

namespace TradeBatchStats

def winrate (stats : TradeBatchStats) : ℚ := stats.wins / stats.n

/-- The batch pushes `buyers_low` up. -/
def Raises (stats : TradeBatchStats) : Prop := 2 ≤ stats.n ∧ stats.winrate < 12 / 25

/-- The batch pushes `buyers_low` down. -/
def Lowers (stats : TradeBatchStats) : Prop := 2 ≤ stats.n ∧ 31 / 50 < stats.winrate

/-- The batch pushes the smart-wallet minimum up. -/
def RaisesSmart (stats : TradeBatchStats) : Prop :=
  2 ≤ stats.n ∧ stats.winrate < 13 / 25 ∧ stats.lossSmart + 3 / 4 < stats.winSmart

/-- The batch pushes the volume multiplier up. -/
def RaisesVolume (stats : TradeBatchStats) : Prop :=
  2 ≤ stats.n ∧ 0 < stats.lossBuyers ∧ 0 < stats.winBuyers ∧
    stats.winBuyers + 3 / 2 < stats.lossBuyers

instance (stats : TradeBatchStats) : Decidable stats.Raises := inferInstanceAs (Decidable (_ ∧ _))

instance (stats : TradeBatchStats) : Decidable stats.Lowers := inferInstanceAs (Decidable (_ ∧ _))

instance (stats : TradeBatchStats) : Decidable stats.RaisesSmart :=
  inferInstanceAs (Decidable (_ ∧ _))

instance (stats : TradeBatchStats) : Decidable stats.RaisesVolume :=
  inferInstanceAs (Decidable (_ ∧ _))

theorem Raises.not_lowers {stats : TradeBatchStats} (h : stats.Raises) : ¬ stats.Lowers := by
  intro h'
  have h₁ := h.2
  have h₂ := h'.2
  linarith

end TradeBatchStats

/-- `saturating_add(1)` on `u64`. -/
def saturatingSucc (v : ℕ) : ℕ := min (v + 1) u64Max

def applyHeuristics (base : FeatureThresholds) (stats : TradeBatchStats)
    (patch : FeatureThresholdPatch) : FeatureThresholdPatch :=
  if stats.n < 2 then patch
  else
    let winrate := stats.winrate
    let buyersLow := patch.buyersLow.getD base.buyersLow
    let patch :=
      if winrate < 12 / 25 then { patch with buyersLow := some (saturatingSucc buyersLow) }
      else if 31 / 50 < winrate then { patch with buyersLow := some (max (buyersLow - 1) 1) }
      else patch
    let cur := patch.smartWallet3plusMin.getD base.smartWallet3plusMin
    let patch :=
      if winrate < 13 / 25 ∧ stats.lossSmart + 3 / 4 < stats.winSmart then
        -- `cur + 1` wraps
        { patch with smartWallet3plusMin := some (min ((cur + 1) % 2 ^ 32) 8) }
      else patch
    if 0 < stats.lossBuyers ∧ 0 < stats.winBuyers ∧ stats.winBuyers + 3 / 2 < stats.lossBuyers then
      let m := patch.volumeOkSolMult.getD 1 * (21 / 20)
      { patch with volumeOkSolMult := some (min m (23 / 20)) }
    else patch

section
variable (base : FeatureThresholds) (stats : TradeBatchStats) (patch : FeatureThresholdPatch)

theorem applyHeuristics_buyersLow :
    (applyHeuristics base stats patch).buyersLow =
      if stats.Raises then some (saturatingSucc (patch.buyersLow.getD base.buyersLow))
      else if stats.Lowers then some (max (patch.buyersLow.getD base.buyersLow - 1) 1)
      else patch.buyersLow := by
  unfold applyHeuristics TradeBatchStats.Raises TradeBatchStats.Lowers
  by_cases hn : stats.n < 2
  · simp [hn, not_le.mpr hn]
  · simp only [hn, not_lt.mp hn, if_false, true_and]
    split_ifs <;> rfl

theorem applyHeuristics_smartWallet3plusMin :
    (applyHeuristics base stats patch).smartWallet3plusMin =
      if stats.RaisesSmart then
        some (min ((patch.smartWallet3plusMin.getD base.smartWallet3plusMin + 1) % 2 ^ 32) 8)
      else patch.smartWallet3plusMin := by
  unfold applyHeuristics TradeBatchStats.RaisesSmart
  by_cases hn : stats.n < 2
  · simp [hn, not_le.mpr hn]
  · simp only [hn, not_lt.mp hn, if_false, true_and]
    split_ifs <;> rfl

theorem applyHeuristics_volumeOkSolMult :
    (applyHeuristics base stats patch).volumeOkSolMult =
      if stats.RaisesVolume then some (min (patch.volumeOkSolMult.getD 1 * (21 / 20)) (23 / 20))
      else patch.volumeOkSolMult := by
  unfold applyHeuristics TradeBatchStats.RaisesVolume
  by_cases hn : stats.n < 2
  · simp [hn, not_le.mpr hn]
  · simp only [hn, not_lt.mp hn, if_false, true_and]
    split_ifs <;> rfl

end

/-! ## The loop -/

structure LearningConfig where
  enabled : Bool := true
  analyzeEveryTrades : UInt64 := 100
  minTradesForUpdate : ℤ := 30

structure LearningOverridesFile where
  patch : FeatureThresholdPatch := {}
  lastOptimizedUnix : ℤ := 0
  lastSampleSize : ℤ := 0
  deriving DecidableEq

structure LearningState where
  lastTradeCountAtOptimize : ℤ
  overrides : LearningOverridesFile
  deriving DecidableEq

/-- What one pass of the loop meets: the answers of the database (`none` for an error), the clock,
and whether the file was written. -/
structure LearningTick where
  countTrades : Option ℤ
  statsAll : Option TradeBatchStats
  nowUnix : ℤ
  saved : Bool

namespace LearningState

variable (cfg : LearningConfig) (base : FeatureThresholds)

/-- The batch that this pass learns from. -/
def update? (s : LearningState) (tick : LearningTick) : Option TradeBatchStats := do
  let cnt ← tick.countTrades
  let stats ← tick.statsAll
  if cnt - s.lastTradeCountAtOptimize < cfg.analyzeEveryTrades.toInt64.toInt then none
  else if stats.n < cfg.minTradesForUpdate then none
  else if tick.saved then some stats
  else none

def tick (s : LearningState) (tick : LearningTick) : LearningState :=
  match tick.countTrades with
  | none => s
  | some cnt =>
    if cnt - s.lastTradeCountAtOptimize < cfg.analyzeEveryTrades.toInt64.toInt then s
    else match tick.statsAll with
      | none => s
      | some stats =>
        if stats.n < cfg.minTradesForUpdate then { s with lastTradeCountAtOptimize := cnt }
        else if tick.saved then
          { lastTradeCountAtOptimize := cnt
            overrides := {
              patch := applyHeuristics base stats s.overrides.patch
              lastOptimizedUnix := tick.nowUnix
              lastSampleSize := stats.n } }
        else s

/-- A pass changes the patch by the batch that it learns from, and not otherwise. -/
theorem tick_patch (s : LearningState) (t : LearningTick) :
    (s.tick cfg base t).overrides.patch =
      (s.update? cfg t).elim s.overrides.patch
        (fun stats => applyHeuristics base stats s.overrides.patch) := by
  obtain ⟨cnt, stats, now, saved⟩ := t
  cases cnt with
  | none => rfl
  | some cnt =>
    cases stats with
    | none =>
      simp only [tick, update?, Option.bind_eq_bind, Option.bind_some, Option.bind_none,
        Option.elim_none]
      split_ifs <;> rfl
    | some stats =>
      simp only [tick, update?, Option.bind_eq_bind, Option.bind_some]
      split_ifs <;> rfl

end LearningState

/-- The loop under every sequence of passes; it is not started unless learning is enabled. -/
def learningEngine (cfg : LearningConfig) (base : FeatureThresholds) :
    Machine LearningState LearningTick where
  init s := s.lastTradeCountAtOptimize = 0
  step s tick := if cfg.enabled then some (s.tick cfg base tick) else none

/-! ## Windup -/

namespace FeatureThresholdPatch

/-- Every nudged threshold of the patch is one that `merge_thresholds` lets take effect. -/
structure TakesEffect (base : FeatureThresholds) (patch : FeatureThresholdPatch) : Prop where
  buyersLow : ∀ v ∈ patch.buyersLow, base.clampBuyersLow v = v
  smartWallet3plusMin : ∀ high ∈ patch.smartWallet3plusMin, clampSmart3plus high = high
  volumeOkSolMult : ∀ m ∈ patch.volumeOkSolMult, clampVolumeMult m = m

/-- After this batch, one batch the other way changes the merged `buyers_low`. -/
structure Reversible (base : FeatureThresholds) (stats : TradeBatchStats)
    (patch : FeatureThresholdPatch) : Prop where
  raised : stats.Raises → ∀ later : TradeBatchStats, later.Lowers →
    (mergeThresholds base (applyHeuristics base later patch)).buyersLow ≠
      (mergeThresholds base patch).buyersLow
  lowered : stats.Lowers → ∀ later : TradeBatchStats, later.Raises →
    (mergeThresholds base (applyHeuristics base later patch)).buyersLow ≠
      (mergeThresholds base patch).buyersLow

/-- The batch keeps `buyers_low` off the bound that it moves to, and the first nudge of the
smart-wallet minimum does not start from zero or wrap. -/
structure Nudges (base : FeatureThresholds) (stats : TradeBatchStats)
    (patch : FeatureThresholdPatch) : Prop where
  raises : stats.Raises → base.buyersLowLo < saturatingSucc (patch.buyersLow.getD base.buyersLow) ∧
    saturatingSucc (patch.buyersLow.getD base.buyersLow) ≤ base.buyersLowHi
  lowers : stats.Lowers → base.buyersLowLo ≤ max (patch.buyersLow.getD base.buyersLow - 1) 1 ∧
    max (patch.buyersLow.getD base.buyersLow - 1) 1 < base.buyersLowHi
  smart : stats.RaisesSmart →
    2 ≤ (patch.smartWallet3plusMin.getD base.smartWallet3plusMin + 1) % 2 ^ 32

variable {base : FeatureThresholds} {stats : TradeBatchStats} {patch : FeatureThresholdPatch}

theorem mergeThresholds_buyersLow {v : ℕ} (h : patch.buyersLow = some v) :
    (mergeThresholds base patch).buyersLow = base.clampBuyersLow v := by
  simp only [mergeThresholds, h]

/-! ### One nudge of `buyers_low` -/

variable (base) in
/-- A raised value is in effect and can be taken back exactly when it is in the upper part of the
range. -/
theorem raised_iff {v : ℕ} :
    (base.clampBuyersLow v = v ∧ base.clampBuyersLow (max (v - 1) 1) ≠ base.clampBuyersLow v) ↔
      base.buyersLowLo < v ∧ v ≤ base.buyersLowHi := by
  have hlo := base.one_le_buyersLowLo
  constructor
  · intro ⟨heffect, hback⟩
    refine ⟨?_, base.le_of_clampBuyersLow_eq_self heffect⟩
    by_contra hle
    refine hback ?_
    rw [base.clampBuyersLow_of_le_lo (not_lt.mp hle), base.clampBuyersLow_of_le_lo (by omega)]
  · intro ⟨hlt, hle⟩
    rw [base.clampBuyersLow_eq_self hlt.le hle, base.clampBuyersLow_eq_self (by omega) (by omega)]
    exact ⟨rfl, by omega⟩

variable (base) in
/-- A lowered one, when it is in the lower part. -/
theorem lowered_iff {v : ℕ} :
    (base.clampBuyersLow v = v ∧ base.clampBuyersLow (saturatingSucc v) ≠ base.clampBuyersLow v) ↔
      base.buyersLowLo ≤ v ∧ v < base.buyersLowHi := by
  have hmax := base.buyersLowHi_le
  unfold saturatingSucc
  constructor
  · intro ⟨heffect, hback⟩
    have hle := base.le_of_clampBuyersLow_eq_self heffect
    have hcross : base.buyersLowLo ≤ base.buyersLowHi := by
      by_contra hcross
      refine hback ?_
      rw [base.clampBuyersLow_of_crossed (not_le.mp hcross),
        base.clampBuyersLow_of_crossed (not_le.mp hcross)]
    refine ⟨base.lo_le_of_clampBuyersLow_eq_self hcross heffect, lt_of_le_of_ne hle ?_⟩
    intro heq
    refine hback ?_
    rw [base.clampBuyersLow_of_hi_le (by omega), base.clampBuyersLow_of_hi_le (by omega)]
  · intro ⟨hle, hlt⟩
    rw [base.clampBuyersLow_eq_self hle hlt.le, base.clampBuyersLow_eq_self (by omega) (by omega)]
    exact ⟨rfl, by omega⟩

/-! ### One batch -/

/-- A batch that loses, and one that wins. -/
def losingBatch : TradeBatchStats := ⟨2, 0, 0, 0, 0, 0⟩

def winningBatch : TradeBatchStats := ⟨2, 2, 0, 0, 0, 0⟩

theorem losingBatch_raises : losingBatch.Raises := by decide +kernel

theorem winningBatch_lowers : winningBatch.Lowers := by decide +kernel

theorem buyersLow_lowered {v : ℕ} (h : patch.buyersLow = some v) {later : TradeBatchStats}
    (hlater : later.Lowers) :
    (mergeThresholds base (applyHeuristics base later patch)).buyersLow =
      base.clampBuyersLow (max (v - 1) 1) := by
  refine mergeThresholds_buyersLow ?_
  rw [applyHeuristics_buyersLow, if_neg fun hraises => hraises.not_lowers hlater, if_pos hlater, h,
    Option.getD_some]

theorem buyersLow_raised {v : ℕ} (h : patch.buyersLow = some v) {later : TradeBatchStats}
    (hlater : later.Raises) :
    (mergeThresholds base (applyHeuristics base later patch)).buyersLow =
      base.clampBuyersLow (saturatingSucc v) := by
  refine mergeThresholds_buyersLow ?_
  rw [applyHeuristics_buyersLow, if_pos hlater, h, Option.getD_some]

variable (stats) in
theorem takesEffect_smart_iff (h : patch.TakesEffect base) :
    (∀ high ∈ (applyHeuristics base stats patch).smartWallet3plusMin,
        clampSmart3plus high = high) ↔
      (stats.RaisesSmart →
        2 ≤ (patch.smartWallet3plusMin.getD base.smartWallet3plusMin + 1) % 2 ^ 32) := by
  rw [applyHeuristics_smartWallet3plusMin]
  by_cases hraises : stats.RaisesSmart
  · rw [if_pos hraises]
    simp only [Option.mem_def, Option.some.injEq, forall_eq', hraises, true_imp_iff,
      clampSmart3plus]
    omega
  · rw [if_neg hraises]
    exact iff_of_true h.smartWallet3plusMin fun hraises' => absurd hraises' hraises

variable (stats) in
theorem takesEffect_volume (h : patch.TakesEffect base) :
    ∀ m ∈ (applyHeuristics base stats patch).volumeOkSolMult, clampVolumeMult m = m := by
  rw [applyHeuristics_volumeOkSolMult]
  by_cases hraises : stats.RaisesVolume
  · rw [if_pos hraises]
    intro m hm
    have hlow : 17 / 20 ≤ patch.volumeOkSolMult.getD 1 := by
      cases hmult : patch.volumeOkSolMult with
      | none => norm_num
      | some m₀ =>
        rw [Option.getD_some, ← h.volumeOkSolMult m₀ hmult]
        exact le_max_left _ _
    rw [Option.mem_def, Option.some.injEq] at hm
    subst hm
    rw [clampVolumeMult, min_eq_left (min_le_right _ _), max_eq_right]
    exact le_min (by linarith) (by norm_num)
  · rw [if_neg hraises]
    exact h.volumeOkSolMult

/-- A batch leaves the patch in effect and reversible exactly when it nudges inside the range. -/
theorem takesEffect_and_reversible_iff (h : patch.TakesEffect base) :
    (applyHeuristics base stats patch).TakesEffect base ∧
        (applyHeuristics base stats patch).Reversible base stats ↔
      patch.Nudges base stats := by
  have hsmart := takesEffect_smart_iff stats h
  have hvolume := takesEffect_volume stats h
  have hbuyers := applyHeuristics_buyersLow base stats patch
  by_cases hraises : stats.Raises
  · rw [if_pos hraises] at hbuyers
    have hiff := raised_iff base
      (v := saturatingSucc (patch.buyersLow.getD base.buyersLow))
    constructor
    · intro ⟨heffect, hreversible⟩
      refine ⟨fun _ => hiff.mp ⟨heffect.buyersLow _ hbuyers, ?_⟩,
        fun hlowers => absurd hlowers hraises.not_lowers, hsmart.mp heffect.smartWallet3plusMin⟩
      have hback := hreversible.raised hraises _ winningBatch_lowers
      rwa [buyersLow_lowered hbuyers winningBatch_lowers, mergeThresholds_buyersLow hbuyers]
        at hback
    · intro hnudges
      obtain ⟨heffect, hback⟩ := hiff.mpr (hnudges.raises hraises)
      refine ⟨⟨?_, hsmart.mpr hnudges.smart, hvolume⟩, ?_,
        fun hlowers => absurd hlowers hraises.not_lowers⟩
      · intro v hv
        rw [hbuyers, Option.mem_def, Option.some.injEq] at hv
        rwa [← hv]
      · intro _ later hlater
        rwa [buyersLow_lowered hbuyers hlater, mergeThresholds_buyersLow hbuyers]
  · rw [if_neg hraises] at hbuyers
    by_cases hlowers : stats.Lowers
    · rw [if_pos hlowers] at hbuyers
      have hiff := lowered_iff base
        (v := max (patch.buyersLow.getD base.buyersLow - 1) 1)
      constructor
      · intro ⟨heffect, hreversible⟩
        refine ⟨fun hraises' => absurd hraises' hraises,
          fun _ => hiff.mp ⟨heffect.buyersLow _ hbuyers, ?_⟩,
          hsmart.mp heffect.smartWallet3plusMin⟩
        have hback := hreversible.lowered hlowers _ losingBatch_raises
        rwa [buyersLow_raised hbuyers losingBatch_raises, mergeThresholds_buyersLow hbuyers]
          at hback
      · intro hnudges
        obtain ⟨heffect, hback⟩ := hiff.mpr (hnudges.lowers hlowers)
        refine ⟨⟨?_, hsmart.mpr hnudges.smart, hvolume⟩, fun hraises' => absurd hraises' hraises,
          ?_⟩
        · intro v hv
          rw [hbuyers, Option.mem_def, Option.some.injEq] at hv
          rwa [← hv]
        · intro _ later hlater
          rwa [buyersLow_raised hbuyers hlater, mergeThresholds_buyersLow hbuyers]
    · rw [if_neg hlowers] at hbuyers
      constructor
      · intro ⟨heffect, _⟩
        exact ⟨fun hraises' => absurd hraises' hraises, fun hlowers' => absurd hlowers' hlowers,
          hsmart.mp heffect.smartWallet3plusMin⟩
      · intro hnudges
        refine ⟨⟨?_, hsmart.mpr hnudges.smart, hvolume⟩, fun hraises' => absurd hraises' hraises,
          fun hlowers' => absurd hlowers' hlowers⟩
        rw [hbuyers]
        exact h.buyersLow

end FeatureThresholdPatch

/-! ## Every run -/

namespace LearningState

variable (cfg : LearningConfig) (base : FeatureThresholds)

/-- After this pass the stored patch is in effect, and what it has learned can be taken back. -/
def Unwound (s : LearningState) (t : LearningTick) : Prop :=
  (s.tick cfg base t).overrides.patch.TakesEffect base ∧
    ∀ stats ∈ s.update? cfg t, (s.tick cfg base t).overrides.patch.Reversible base stats

/-- What this pass learns nudges inside the range. -/
def NudgesInside (s : LearningState) (t : LearningTick) : Prop :=
  ∀ stats ∈ s.update? cfg t, s.overrides.patch.Nudges base stats

variable {cfg base}

theorem unwound_iff {s : LearningState} (h : s.overrides.patch.TakesEffect base)
    (t : LearningTick) : s.Unwound cfg base t ↔ s.NudgesInside cfg base t := by
  unfold Unwound NudgesInside
  rw [tick_patch]
  cases hupdate : s.update? cfg t with
  | none => exact iff_of_true ⟨h, fun _ hstats => by cases hstats⟩ (fun _ hstats => by cases hstats)
  | some stats =>
    simp only [Option.elim_some, Option.mem_def, Option.some.injEq, forall_eq']
    exact FeatureThresholdPatch.takesEffect_and_reversible_iff h

/-- **No windup** on exactly the runs that start in effect and nudge inside the range. -/
theorem noWindup_iff (s u : LearningState) (es : List LearningTick) :
    s.overrides.patch.TakesEffect base ∧
        (learningEngine cfg base).Path (Unwound cfg base) s es u ↔
      s.overrides.patch.TakesEffect base ∧
        (learningEngine cfg base).Path (NudgesInside cfg base) s es u := by
  refine and_congr_right fun hs => ?_
  refine Machine.Path.congr (I := fun s => s.overrides.patch.TakesEffect base) ?_ ?_ hs
  · intro s t s' _ hunwound hstep
    simp only [learningEngine, Option.ite_none_right_eq_some, Option.some.injEq] at hstep
    rw [← hstep.2]
    exact hunwound.1
  · intro s t _ hs _
    exact unwound_iff hs t

/-- A pass over so many closed trades, so many of them won. -/
def passOver (n wins : ℤ) : LearningTick := ⟨some n, some ⟨n, wins, 0, 0, 0, 0⟩, 0, true⟩

/-- **Windup.** With the default thresholds two bad batches take `buyers_low` to 6, where 5 is the
most that takes effect; a good batch then changes nothing. -/
theorem winds_up :
    (learningEngine {} {}).run ⟨0, {}⟩ [passOver 100 40, passOver 200 80] =
        some ⟨200, { patch := { buyersLow := some 6 }, lastSampleSize := 200 }⟩ ∧
      ¬ FeatureThresholdPatch.TakesEffect {} { buyersLow := some 6 } ∧
      (TradeBatchStats.Lowers ⟨300, 200, 0, 0, 0, 0⟩ ∧
        mergeThresholds {} (applyHeuristics {} ⟨300, 200, 0, 0, 0, 0⟩ { buyersLow := some 6 }) =
          mergeThresholds {} { buyersLow := some 6 }) := by
  refine ⟨?_, ?_, ?_⟩
  · decide +kernel
  · intro heffect
    exact absurd (heffect.buyersLow 6 rfl) (by decide)
  · decide +kernel

end LearningState

end Loggaper
