import Loggaper.Learning.Merge
import Loggaper.Scoring.ScoreEngine

/-!
# The lane of fresh developers

Three places decide on a fresh developer's token: the watchlist polls its gates, the engine assigns
its tier, and a skip is logged with the gate that failed.

- `freshLane_agrees`: the three agree.
- `pollBGates_passes`: a poll that passes is a token to which the engine assigns tier B.
-/

namespace Loggaper

/-! ## The poll and the reason -/

/-- Result of a poll of the tier-B gates. -/
structure TierBGatePoll where
  entryOk : Bool
  hotOverride : Bool
  momentumOnlyFail : Bool
  velocityPct : ℚ
  buyers : ℕ
  buyVolumeSol : ℚ
  momentumOverheated : Bool

def evaluateTierBPoll (cfg : TierBGateConfig) (f : TokenFeatures) (items : ScoreItems) :
    TierBGatePoll where
  entryOk := tierBEntryOk cfg f items
  hotOverride := !tierBEntryOk cfg f items && freshBHotOverrideOk cfg f items
  momentumOnlyFail := isMomentumOnlyTierBFail cfg f items
  velocityPct := freshBVelocityPct f
  buyers := f.buyerCount
  buyVolumeSol := f.buyVolumeSol
  momentumOverheated := hasMomentumOverheated items

def tierBPollPasses (poll : TierBGatePoll) : Bool := poll.entryOk || poll.hotOverride

/-- Which gate failed, for the log. -/
def freshBGateFailReason (cfg : TierBGateConfig) (f : TokenFeatures) (items : ScoreItems) :
    Option String :=
  if !cfg.enabled then some "fresh_b_disabled"
  else if !tierBBaseGatesOk cfg f then
    if f.smartWalletCount < cfg.minSmartWallets then some "fresh_b_no_smart"
    else if f.buyerCount < cfg.minBuyers then some "fresh_b_low_buyers"
    else if f.buyVolumeSol < cfg.minBuyVolumeSol then some "fresh_b_low_volume"
    else none
  else if !hasMomentumGood items then some "fresh_b_no_momentum"
  else if !tierBVelocityOk cfg f then some "fresh_b_low_velocity"
  else none

/-! ## The watchlist's poll -/

/-- What one poll learns of a token: a sample of its bucket, the early buyers with what they paid
and hold, the bundle statistics, and how many of the buyers are smart wallets. -/
structure WatchSample where
  tapePoint : EarlyTapePoint
  earlyBuyers : EarlyBuyersSnapshot
  buyVolumeSol : ℚ
  stillLong : ℕ
  sold : ℕ
  bundle : BundleStats
  smartCount : ℕ

/-- The features that a poll assembles: no history, and the fresh category. -/
def watchFeatures (tanh : ℚ → ℚ) (mint dev : Address) (initialMcapSol : ℚ) (sample : WatchSample) :
    TokenFeatures :=
  let currentMcapSol := sample.tapePoint.mcapSol
  assemble mint dev none .fresh {} initialMcapSol currentMcapSol
    (max initialMcapSol currentMcapSol) sample.earlyBuyers sample.earlyBuyers.regulars.length
    sample.earlyBuyers.snipers.length sample.buyVolumeSol sample.stillLong sample.sold sample.bundle
    sample.smartCount (.fromTapePoints tanh [sample.tapePoint] 0)

/-- The thresholds of both pipelines: merged with what was learned, except in the legacy engine. -/
def scoringThresholds (cfg : ScoringConfig) (patch : FeatureThresholdPatch) : FeatureThresholds :=
  if cfg.legacyScoring then cfg.thresholds else mergeThresholds cfg.thresholds patch

def pollBGates (tanh : ℚ → ℚ) (cfg : ScoringConfig) (patch : FeatureThresholdPatch)
    (mint dev : Address) (initialMcapSol : ℚ) (sample : WatchSample) : TierBGatePoll :=
  let f := watchFeatures tanh mint dev initialMcapSol sample
  evaluateTierBPoll cfg.tierB f (ScoreEngine.score cfg f (scoringThresholds cfg patch)).items

/-! ## Agreement -/

theorem tierBDevEligible_iff {cfg : TierBGateConfig} {f : TokenFeatures} :
    tierBDevEligible f cfg = true ↔
      cfg.enabled = true ∧ f.isSpamDev = false ∧ f.devCategory = .fresh := by
  unfold tierBDevEligible
  cases cfg.enabled <;> cases f.isSpamDev <;> simp

theorem enabled_of_tierBEntryOk {cfg : TierBGateConfig} {f : TokenFeatures} {items : ScoreItems}
    (h : tierBEntryOk cfg f items = true) : cfg.enabled = true := by
  simp only [tierBEntryOk, tierBBaseGatesOk, Bool.and_eq_true] at h
  exact h.1.1.1.1.1

theorem eligible_of_freshBHotOverrideOk {cfg : TierBGateConfig} {f : TokenFeatures}
    {items : ScoreItems} (h : freshBHotOverrideOk cfg f items = true) :
    tierBDevEligible f cfg = true := by
  have hfail : isMomentumOnlyTierBFail cfg f items = true := by
    by_contra hno
    simp [freshBHotOverrideOk, hno] at h
  simp only [isMomentumOnlyTierBFail, Bool.and_eq_true] at hfail
  exact hfail.1.1.1

/-- The low-cap rule turns A+ into A and nothing else. -/
theorem capTierForLowMcap_ne_b {f : TokenFeatures} {cfg : AntiRugConfig} {tier : Tier}
    (h : tier ≠ .b) : capTierForLowMcap f cfg tier ≠ .b := by
  unfold capTierForLowMcap
  split_ifs
  · exact h
  · exact Tier.noConfusion
  · exact h

namespace ScoreEngine

variable {cfg : ScoringConfig} {f : TokenFeatures} {s : Score}

theorem finishBreakdown_items : (finishBreakdown cfg f s).items = s.items := rfl

/-- In the lane the tier is that of the poll. -/
theorem finishBreakdown_tier_of_eligible (h : tierBDevEligible f cfg.tierB = true) :
    (finishBreakdown cfg f s).tier =
      if tierBPollPasses (evaluateTierBPoll cfg.tierB f s.items) then .b else .skip := by
  show (if tierBDevEligible f cfg.tierB then _ else _) = _
  rw [if_pos h]
  rfl

/-- Outside of it there is no tier B. -/
theorem finishBreakdown_tier_ne_b (h : ¬ tierBDevEligible f cfg.tierB = true) :
    (finishBreakdown cfg f s).tier ≠ .b := by
  show (if tierBDevEligible f cfg.tierB then _ else _) ≠ _
  rw [if_neg h]
  refine capTierForLowMcap_ne_b ?_
  split_ifs <;> exact Tier.noConfusion

/-- The engine assigns tier B exactly to eligible tokens whose poll passes. -/
theorem finishBreakdown_tier_b_iff :
    (finishBreakdown cfg f s).tier = .b ↔ tierBDevEligible f cfg.tierB = true ∧
      tierBPollPasses (evaluateTierBPoll cfg.tierB f s.items) = true := by
  by_cases h : tierBDevEligible f cfg.tierB = true
  · rw [finishBreakdown_tier_of_eligible h]
    by_cases hpasses : tierBPollPasses (evaluateTierBPoll cfg.tierB f s.items) = true
    · rw [if_pos hpasses]
      exact iff_of_true rfl ⟨h, hpasses⟩
    · rw [if_neg hpasses]
      exact iff_of_false Tier.noConfusion fun hboth => hpasses hboth.2
  · exact iff_of_false (finishBreakdown_tier_ne_b h) fun hboth => h hboth.1

end ScoreEngine

/-- A disabled lane passes nothing. -/
theorem enabled_of_tierBPollPasses {cfg : TierBGateConfig} {f : TokenFeatures}
    {items : ScoreItems} (h : tierBPollPasses (evaluateTierBPoll cfg f items) = true) :
    cfg.enabled = true := by
  rcases Bool.or_eq_true_iff.mp h with hentry | hhot
  · exact enabled_of_tierBEntryOk hentry
  · simp only [evaluateTierBPoll, Bool.and_eq_true] at hhot
    exact (tierBDevEligible_iff.mp (eligible_of_freshBHotOverrideOk hhot.2)).1

theorem freshBGateFailReason_eq_none_iff (cfg : TierBGateConfig) (f : TokenFeatures)
    (items : ScoreItems) :
    freshBGateFailReason cfg f items = none ↔ tierBEntryOk cfg f items = true := by
  unfold freshBGateFailReason tierBEntryOk
  by_cases henabled : cfg.enabled = true
  · by_cases hbase : tierBBaseGatesOk cfg f = true
    · simp only [henabled, hbase, Bool.not_true, Bool.false_eq_true, if_false, Bool.true_and]
      cases hasMomentumGood items <;> cases tierBVelocityOk cfg f <;> simp
    · -- a base gate that fails is one of the three that are asked for
      have hfails : f.smartWalletCount < cfg.minSmartWallets ∨ f.buyerCount < cfg.minBuyers ∨
          f.buyVolumeSol < cfg.minBuyVolumeSol := by
        by_contra hall
        simp only [not_or, not_lt] at hall
        exact hbase (by simp [tierBBaseGatesOk, henabled, hall])
      refine iff_of_false ?_ (by simp [hbase])
      rw [if_neg (by simp [henabled]), if_pos (by simp [hbase])]
      by_cases hsmart : f.smartWalletCount < cfg.minSmartWallets
      · rw [if_pos hsmart]
        exact Option.some_ne_none _
      · by_cases hbuyers : f.buyerCount < cfg.minBuyers
        · rw [if_neg hsmart, if_pos hbuyers]
          exact Option.some_ne_none _
        · have hvolume := (hfails.resolve_left hsmart).resolve_left hbuyers
          rw [if_neg hsmart, if_neg hbuyers, if_pos hvolume]
          exact Option.some_ne_none _
  · simp [henabled, tierBBaseGatesOk]

/-- What the three places promise each other about one token. -/
structure FreshLaneAgrees (cfg : ScoringConfig) (thresholds : FeatureThresholds)
    (f : TokenFeatures) : Prop where
  poll : f.devCategory = .fresh → f.isSpamDev = false →
    (tierBPollPasses (evaluateTierBPoll cfg.tierB f
      (ScoreEngine.score cfg f thresholds).items) = true ↔
        (ScoreEngine.score cfg f thresholds).tier = .b)
  only_eligible : (ScoreEngine.score cfg f thresholds).tier = .b →
    tierBDevEligible f cfg.tierB = true
  b_or_skip : tierBDevEligible f cfg.tierB = true →
    (ScoreEngine.score cfg f thresholds).tier = .b ∨
      (ScoreEngine.score cfg f thresholds).tier = .skip
  reason : ∀ items, freshBGateFailReason cfg.tierB f items = none ↔
    tierBEntryOk cfg.tierB f items = true

/-- **The watchlist agrees with the score engine**, and the log with the gates. -/
theorem freshLane_agrees (cfg : ScoringConfig) (thresholds : FeatureThresholds)
    (f : TokenFeatures) : FreshLaneAgrees cfg thresholds f := by
  obtain ⟨s, hs⟩ := ScoreEngine.score_eq cfg f thresholds
  constructor
  · intro hfresh hspam
    rw [hs, ScoreEngine.finishBreakdown_items, ScoreEngine.finishBreakdown_tier_b_iff]
    constructor
    · intro hpasses
      exact ⟨tierBDevEligible_iff.mpr ⟨enabled_of_tierBPollPasses hpasses, hspam, hfresh⟩, hpasses⟩
    · exact fun hboth => hboth.2
  · rw [hs]
    exact fun htier => (ScoreEngine.finishBreakdown_tier_b_iff.mp htier).1
  · intro heligible
    rw [hs, ScoreEngine.finishBreakdown_tier_of_eligible heligible]
    split_ifs
    · exact .inl rfl
    · exact .inr rfl
  · exact freshBGateFailReason_eq_none_iff cfg.tierB f

/-- A poll of the watchlist passes exactly when the engine assigns tier B to what it has seen. -/
theorem pollBGates_passes (tanh : ℚ → ℚ) (cfg : ScoringConfig) (patch : FeatureThresholdPatch)
    (mint dev : Address) (initialMcapSol : ℚ) (sample : WatchSample) :
    tierBPollPasses (pollBGates tanh cfg patch mint dev initialMcapSol sample) = true ↔
      (ScoreEngine.score cfg (watchFeatures tanh mint dev initialMcapSol sample)
        (scoringThresholds cfg patch)).tier = .b := by
  obtain ⟨s, hs⟩ := ScoreEngine.score_eq cfg (watchFeatures tanh mint dev initialMcapSol sample)
    (scoringThresholds cfg patch)
  simp only [pollBGates]
  rw [hs, ScoreEngine.finishBreakdown_items, ScoreEngine.finishBreakdown_tier_b_iff]
  constructor
  · intro hpasses
    exact ⟨tierBDevEligible_iff.mpr ⟨enabled_of_tierBPollPasses hpasses, rfl, rfl⟩, hpasses⟩
  · exact fun hboth => hboth.2

end Loggaper
