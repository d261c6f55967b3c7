import Loggaper.Scoring.FreshLane
import Loggaper.Scoring.ScoreItems

/-!
# The score is monotone in the evidence

Two tokens of one developer, with the same market cap, the same ratio and the same volume of sells.
If the second has more buyers, more smart wallets and a better tape, it scores no less, in both
engines, and outside of the fresh lane its tier is no lower.

The points of each part are compared on their own; the ladders of the engine are monotone because
their rungs are.
-/

namespace Loggaper

open ScoreItems

/-! ## What is compared -/

/-- Rewards that are not negative and grow along their ladders, penalties that are not positive. -/
structure ScoringWeights.Ordered (w : ScoringWeights) : Prop where
  smart_1plus : 0 ≤ w.smartWallets1plus
  smart_3plus : w.smartWallets1plus ≤ w.smartWallets3plus
  buyers_mid : 0 ≤ w.buyers6plus
  buyers_high : w.buyers6plus ≤ w.buyers10plus
  volume : 0 ≤ w.volumeOk
  persistent : 0 ≤ w.buyerVelocityPersistent
  absorb : 0 ≤ w.absorbStrong
  buyers_below : w.buyersBelow3 ≤ 0
  similar : w.bundleSimilar ≤ 0
  identical : w.bundleIdentical ≤ w.bundleSimilar
  fading : w.buyerVelocityFading ≤ 0
  pressure : w.sellPressureHigh ≤ 0
  early_exit : w.smartEarlyExitDump ≤ 0
  dump : w.repeatDumpPenalty ≤ 0

/-- `f'` shows at least as much in favour of its token as `f`, and no more against it. -/
structure TokenFeatures.NoStronger (f f' : TokenFeatures) : Prop where
  history : f'.devHasHistory = f.devHasHistory
  coins : f'.devTotalCoins = f.devTotalCoins
  pnl : f'.devPnlAvg = f.devPnlAvg
  category : f'.devCategory = f.devCategory
  spam : f'.isSpamDev = f.isSpamDev
  initial_mcap : f'.initialMcapSol = f.initialMcapSol
  current_mcap : f'.currentMcapSol = f.currentMcapSol
  peak_mcap : f'.peakMcapSol = f.peakMcapSol
  ratio : f'.buyToSellRatio = f.buyToSellRatio
  sell_volume : f'.sellVolumeWindowSol = f.sellVolumeWindowSol
  slices : f'.buyerVelocityNewPerSlice.length = f.buyerVelocityNewPerSlice.length
  smart : f.smartWalletCount ≤ f'.smartWalletCount
  buyers : f.buyerCount ≤ f'.buyerCount
  volume : f.buyVolumeSol ≤ f'.buyVolumeSol
  persistence : f.buyerVelocityPersistence ≤ f'.buyerVelocityPersistence
  absorb : f.absorbQualityScore ≤ f'.absorbQualityScore
  identical : f'.bundle.identicalSizeRatio ≤ f.bundle.identicalSizeRatio
  similar : f'.bundle.similarSizeRatio ≤ f.bundle.similarSizeRatio
  pressure : f'.sellPressureScore ≤ f.sellPressureScore
  dumps : f'.repeatDumpSlices ≤ f.repeatDumpSlices
  early_exits : f'.smartWalletEarlyExits ≤ f.smartWalletEarlyExits

/-- Skip is below A, and A below A+. Tier B is a lane of its own. -/
def Tier.notLower : Tier → Tier → Bool
  | .skip, .skip | .skip, .a | .skip, .aPlus | .a, .a | .a, .aPlus | .aPlus, .aPlus => true
  | _, _ => false

/-- The sum fits in an `i32`. -/
def FitsI32 (x : ℤ) : Prop := -2 ^ 31 ≤ x ∧ x < 2 ^ 31

/-! ## Rungs -/

theorem reward_le {c c' : Prop} [Decidable c] [Decidable c'] {p : ℤ} (hp : 0 ≤ p) (h : c → c') :
    (if c then p else 0) ≤ if c' then p else 0 := by
  by_cases hc : c
  · rw [if_pos hc, if_pos (h hc)]
  · rw [if_neg hc]
    split_ifs
    · exact hp
    · exact le_rfl

theorem penalty_le {c c' : Prop} [Decidable c] [Decidable c'] {p : ℤ} (hp : p ≤ 0) (h : c' → c) :
    (if c then p else 0) ≤ if c' then p else 0 := by
  by_cases hc : c'
  · rw [if_pos hc, if_pos (h hc)]
  · rw [if_neg hc]
    split_ifs
    · exact hp
    · exact le_rfl

/-- A penalty times a larger factor, saturated, is no smaller a penalty. -/
theorem saturatingMul_le {x j k : ℤ} (hx : x ≤ 0) (hk : j ≤ k) :
    saturatingMul x k ≤ saturatingMul x j := by
  have hprod : x * k ≤ x * j := mul_le_mul_of_nonpos_left hk hx
  unfold saturatingMul
  omega

theorem saturatingMul_nonpos {x k : ℤ} (hx : x ≤ 0) (hk : 0 ≤ k) : saturatingMul x k ≤ 0 := by
  have hprod : x * k ≤ 0 := mul_nonpos_of_nonpos_of_nonneg hx hk
  unfold saturatingMul
  omega

namespace ScoreEngine

variable {cfg : ScoringConfig} {f f' : TokenFeatures} (t : FeatureThresholds)

/-! ## The parts -/

theorem devEntries_congr (h : f.NoStronger f') : devEntries cfg f' t = devEntries cfg f t := by
  simp only [devEntries, h.history, h.coins, h.pnl, h.category, h.spam]

theorem points_smartEntries_le (hw : cfg.weights.Ordered) (h : f.NoStronger f') :
    points (smartEntries cfg f t) ≤ points (smartEntries cfg f' t) := by
  have hpoints : ∀ f : TokenFeatures, points (smartEntries cfg f t) =
      if t.smartWallet3plusMin ≤ f.smartWalletCount then cfg.weights.smartWallets3plus
      else if t.smartWallet1plusMin ≤ f.smartWalletCount then cfg.weights.smartWallets1plus
      else 0 := by
    intro f
    by_cases hthree : t.smartWallet3plusMin ≤ f.smartWalletCount
    · simp [smartEntries, hthree]
    · simp [smartEntries, hthree]
  have hone := hw.smart_1plus
  have hthree := hw.smart_3plus
  have hcount := h.smart
  rw [hpoints, hpoints]
  split_ifs <;> omega

theorem points_buyersEntries_le (hw : cfg.weights.Ordered) (h : f.NoStronger f') :
    points (buyersEntries cfg f t) ≤ points (buyersEntries cfg f' t) := by
  have hpoints : ∀ f : TokenFeatures, points (buyersEntries cfg f t) =
      if t.buyersHigh ≤ f.buyerCount then cfg.weights.buyers10plus
      else if t.buyersMid ≤ f.buyerCount then cfg.weights.buyers6plus
      else if f.buyerCount < t.buyersLow then cfg.weights.buyersBelow3
      else 0 := by
    intro f
    by_cases hhigh : t.buyersHigh ≤ f.buyerCount
    · simp [buyersEntries, hhigh]
    · by_cases hmid : t.buyersMid ≤ f.buyerCount <;> simp [buyersEntries, hhigh, hmid]
  have hmid := hw.buyers_mid
  have hhigh := hw.buyers_high
  have hbelow := hw.buyers_below
  have hcount := h.buyers
  rw [hpoints, hpoints]
  split_ifs <;> omega

theorem ratioEntries_congr (h : f.NoStronger f') :
    ratioEntries cfg f' t = ratioEntries cfg f t := by
  simp only [ratioEntries, rewardsBuyToSellRatio, h.ratio, h.sell_volume]

theorem momentumEntries_congr (h : f.NoStronger f') :
    momentumEntries cfg f' t = momentumEntries cfg f t := by
  have hpct : scoringMomentumPct f' = scoringMomentumPct f := by
    rw [scoringMomentumPct, scoringMomentumPct, h.initial_mcap, h.current_mcap, h.peak_mcap]
  simp only [momentumEntries, goodMomentum, overheatedMomentum, hpct]

theorem points_volumeEntries_le (hw : cfg.weights.Ordered) (h : f.NoStronger f') :
    points (volumeEntries cfg f t) ≤ points (volumeEntries cfg f' t) := by
  simp only [volumeEntries, points_entryIf, decide_eq_true_eq]
  exact reward_le hw.volume fun hok => hok.trans h.volume

/-- Identical sizes cost more than similar ones, and fewer bundles are found in `f'`. -/
theorem points_bundleEntries_le (hw : cfg.weights.Ordered) (h : f.NoStronger f') :
    points (bundleEntries cfg f t) ≤ points (bundleEntries cfg f' t) := by
  have hsame : identicalBundle cfg f' t = true → identicalBundle cfg f t = true := by
    simp only [identicalBundle, Bool.and_eq_true, decide_eq_true_eq]
    exact fun hboth => ⟨hboth.1, hboth.2.trans h.identical⟩
  have hlike : similarBundle cfg f' t = true →
      identicalBundle cfg f t = true ∨ similarBundle cfg f t = true := by
    simp only [similarBundle, Bool.and_eq_true, decide_eq_true_eq, Bool.not_eq_true']
    intro hboth
    cases identicalBundle cfg f t with
    | true => exact .inl rfl
    | false => exact .inr ⟨rfl, hboth.2.trans h.similar⟩
  have hexcl : ∀ f : TokenFeatures,
      identicalBundle cfg f t = true → similarBundle cfg f t = false := by
    intro f hid
    simp [similarBundle, hid]
  have hsimilar := hw.similar
  have hidentical := hw.identical
  simp only [bundleEntries, points_append, points_entryIf]
  have hf := hexcl f
  have hf' := hexcl f'
  revert hsame hlike hf hf'
  cases identicalBundle cfg f t <;> cases similarBundle cfg f t <;>
    cases identicalBundle cfg f' t <;> cases similarBundle cfg f' t <;> simp <;> omega

theorem points_velocityEntries_le (hw : cfg.weights.Ordered) (h : f.NoStronger f') :
    points (velocityEntries cfg f) ≤ points (velocityEntries cfg f') := by
  have hup : persistentVelocity cfg f = true → persistentVelocity cfg f' = true := by
    simp only [persistentVelocity, decide_eq_true_eq]
    intro hboth
    exact ⟨hboth.1.trans h.persistence, h.slices ▸ hboth.2⟩
  have hdown : fadingVelocity cfg f' = true →
      persistentVelocity cfg f = true ∨ fadingVelocity cfg f = true := by
    simp only [fadingVelocity, Bool.and_eq_true, decide_eq_true_eq, Bool.not_eq_true']
    intro hboth
    cases persistentVelocity cfg f with
    | true => exact .inl rfl
    | false => exact .inr ⟨rfl, h.persistence.trans hboth.2.1, h.slices ▸ hboth.2.2⟩
  have hexcl : ∀ f : TokenFeatures, persistentVelocity cfg f = true →
      fadingVelocity cfg f = false := by
    intro f hpersistent
    simp [fadingVelocity, hpersistent]
  have hpersistent := hw.persistent
  have hfading := hw.fading
  simp only [velocityEntries, points_append, points_entryIf]
  have hf := hexcl f
  have hf' := hexcl f'
  revert hup hdown hf hf'
  cases persistentVelocity cfg f <;> cases fadingVelocity cfg f <;>
    cases persistentVelocity cfg f' <;> cases fadingVelocity cfg f' <;> simp <;> omega

theorem points_sellEntries_le (hw : cfg.weights.Ordered) (h : f.NoStronger f') :
    points (sellEntries cfg f) ≤ points (sellEntries cfg f') := by
  simp only [sellEntries, points_append, points_entryIf, decide_eq_true_eq]
  apply add_le_add
  · exact penalty_le hw.pressure fun hhigh => hhigh.trans h.pressure
  · refine reward_le hw.absorb ?_
    simp only [strongAbsorption, Bool.and_eq_true, decide_eq_true_eq, h.sell_volume]
    exact fun hboth => ⟨hboth.1.trans h.absorb, hboth.2⟩

/-- A single early exit costs no more than two. -/
theorem points_dumpEntries_le (hw : cfg.weights.Ordered) (h : f.NoStronger f') :
    points (dumpEntries cfg f) ≤ points (dumpEntries cfg f') := by
  have hexit := hw.early_exit
  have hhalf : cfg.weights.smartEarlyExitDump ≤ max (cfg.weights.smartEarlyExitDump.tdiv 2) (-2) ∧
      max (cfg.weights.smartEarlyExitDump.tdiv 2) (-2) ≤ 0 := by
    have htdiv : cfg.weights.smartEarlyExitDump.tdiv 2 =
        -(-cfg.weights.smartEarlyExitDump / 2) := by
      rw [← Int.tdiv_eq_ediv_of_nonneg (by omega), Int.neg_tdiv, neg_neg]
    omega
  have hthree : saturatingMul cfg.weights.repeatDumpPenalty 3 ≤
      saturatingMul cfg.weights.repeatDumpPenalty 2 := saturatingMul_le hw.dump (by norm_num)
  have htwo : saturatingMul cfg.weights.repeatDumpPenalty 2 ≤ 0 :=
    saturatingMul_nonpos hw.dump (by norm_num)
  have hexits := h.early_exits
  have hdumps := h.dumps
  simp only [dumpEntries, points_append, points_entryIf, decide_eq_true_eq]
  apply add_le_add
  · unfold earlyExitPoints
    split_ifs <;> omega
  · unfold dumpPoints
    split_ifs <;> omega

/-- **The points of all entries.** -/
theorem points_entries_le (hw : cfg.weights.Ordered) (h : f.NoStronger f') :
    points (entries cfg f t) ≤ points (entries cfg f' t) := by
  simp only [entries, points_append]
  rw [devEntries_congr t h, ratioEntries_congr t h, momentumEntries_congr t h]
  have hsmart := points_smartEntries_le t hw h
  have hbuyers := points_buyersEntries_le t hw h
  have hvolume := points_volumeEntries_le t hw h
  have hbundle := points_bundleEntries_le t hw h
  have hvelocity := points_velocityEntries_le hw h
  have hsell := points_sellEntries_le hw h
  have hdump := points_dumpEntries_le hw h
  omega

/-! ## Total and tier -/

theorem score_total_of_fits (hfits : FitsI32 (points (score cfg f t).items)) :
    (score cfg f t).total = points (entries cfg f (thresholdsInUse cfg t)) := by
  rw [score_total, wrapI32_eq_self hfits.1 hfits.2, score_items, points_listed]

/-- The tier of a total, before the fresh lane. -/
def totalTier (cfg : ScoringConfig) (f : TokenFeatures) (total : ℤ) : Tier :=
  capTierForLowMcap f cfg.antiRug
    (if cfg.aPlusThreshold ≤ total then .aPlus else if cfg.aThreshold ≤ total then .a else .skip)

theorem score_tier (h : tierBDevEligible f cfg.tierB = false) :
    (score cfg f t).tier = totalTier cfg f (score cfg f t).total := by
  rw [score_eq_entries]
  show (if tierBDevEligible f cfg.tierB then _ else _) = _
  rw [h]
  rfl

/-- The cap for thin pumps spares a token with more volume if it spares one with less. -/
theorem totalTier_mono (h : f.NoStronger f') {total total' : ℤ} (hle : total ≤ total') :
    (totalTier cfg f total).notLower (totalTier cfg f' total') = true := by
  have hthin : (decide (f'.peakMcapSol < cfg.antiRug.lowMcapPeakSol) &&
        decide (f'.buyVolumeSol < cfg.antiRug.lowMcapMinBuyVolumeSol)) = true →
      (decide (f.peakMcapSol < cfg.antiRug.lowMcapPeakSol) &&
        decide (f.buyVolumeSol < cfg.antiRug.lowMcapMinBuyVolumeSol)) = true := by
    simp only [Bool.and_eq_true, decide_eq_true_eq, h.peak_mcap]
    exact fun hboth => ⟨hboth.1, h.volume.trans_lt hboth.2⟩
  unfold totalTier capTierForLowMcap
  revert hthin
  generalize (decide (f.peakMcapSol < cfg.antiRug.lowMcapPeakSol) &&
    decide (f.buyVolumeSol < cfg.antiRug.lowMcapMinBuyVolumeSol)) = thin
  generalize (decide (f'.peakMcapSol < cfg.antiRug.lowMcapPeakSol) &&
    decide (f'.buyVolumeSol < cfg.antiRug.lowMcapMinBuyVolumeSol)) = thin'
  intro hthin
  by_cases hplus : cfg.aPlusThreshold ≤ total
  · rw [if_pos hplus, if_pos (hplus.trans hle)]
    revert hthin
    cases cfg.antiRug.enabled <;> cases thin <;> cases thin' <;> decide
  · rw [if_neg hplus]
    by_cases ha : cfg.aThreshold ≤ total
    · rw [if_pos ha, if_pos (ha.trans hle)]
      clear hthin
      by_cases hplus' : cfg.aPlusThreshold ≤ total'
      · rw [if_pos hplus']
        cases cfg.antiRug.enabled <;> cases thin <;> cases thin' <;> decide
      · rw [if_neg hplus']
        cases cfg.antiRug.enabled <;> cases thin <;> cases thin' <;> decide
    · rw [if_neg ha]
      clear hthin
      split_ifs <;> simp_all [Tier.notLower]

/-- **More evidence never scores less**, in either engine, and outside of the fresh lane it never
lowers the tier. -/
theorem score_mono (hw : cfg.weights.Ordered) (h : f.NoStronger f')
    (hfits : FitsI32 (points (score cfg f t).items))
    (hfits' : FitsI32 (points (score cfg f' t).items)) :
    (score cfg f t).total ≤ (score cfg f' t).total ∧
      (tierBDevEligible f cfg.tierB = false →
        (score cfg f t).tier.notLower (score cfg f' t).tier = true) := by
  have htotal : (score cfg f t).total ≤ (score cfg f' t).total := by
    rw [score_total_of_fits t hfits, score_total_of_fits t hfits']
    exact points_entries_le _ hw h
  refine ⟨htotal, fun hlane => ?_⟩
  have hlane' : tierBDevEligible f' cfg.tierB = false := by
    rw [tierBDevEligible, h.category, h.spam]
    exact hlane
  rw [score_tier t hlane, score_tier t hlane']
  exact totalTier_mono h htotal

theorem defaultWeights_ordered : ({} : ScoringWeights).Ordered := by
  constructor <;> norm_num

/-- A token with twelve buyers, and with thirteen and a smart wallet. -/
def twelveBuyers : TokenFeatures :=
  assemble 1 2 none .neutral {} 50 60 60 ⟨[], []⟩ 12 0 20 12 0 .empty 0 {}

def thirteenBuyers : TokenFeatures :=
  { twelveBuyers with regularBuyerCount := 13, smartWalletCount := 1 }

theorem score_mono_twelveBuyers :
    (score {} twelveBuyers {}).total ≤ (score {} thirteenBuyers {}).total ∧
      (tierBDevEligible twelveBuyers {} = false →
        (score {} twelveBuyers {}).tier.notLower (score {} thirteenBuyers {}).tier = true) := by
  refine score_mono {} defaultWeights_ordered ?_ ⟨by decide +kernel, by decide +kernel⟩
    ⟨by decide +kernel, by decide +kernel⟩
  constructor <;> decide +kernel

end ScoreEngine

end Loggaper
