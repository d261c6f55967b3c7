import Loggaper.Learning.Merge
import Loggaper.Pipeline.EntryGates
import Loggaper.Pipeline.ScoreBuy
import Loggaper.Pipeline.ScoringWindow
import Loggaper.Scoring.FreshLane
import Loggaper.Scoring.Standing

/-!
# From a token to a buy signal

The whole pipeline behind a token that the filters have let through: the scoring window, the
features, the score, the live gates, the size and the confirmation window. The actors that are asked
on the way answer what they like.

- `sent_iff`: what a sent signal has passed.
- `aplusPeakGuard_idle`: the guard against an A+ bought at its peak decides nothing.
-/

namespace Loggaper

/-- Against tokens bought at a local top. -/
structure AntiParabolicConfig where
  enabled : Bool := false
  nearPeakRatio : ℚ := 97 / 100
  weakScoreMax : ℤ := 9
  confirmWindowMs : ℕ := 1500
  confirmSlices : ℕ := 2
  strongUpticks : ℕ := 2
  strongNewBuyers : ℕ := 3

/-- The configuration of the pipeline. -/
structure EntryConfig where
  mode : ExecutionMode := .live
  scoring : ScoringConfig := {}
  scoringWindowMs : ℕ := 1500
  buyerVelocitySlices : ℕ := 3
  entityTtlSecs : ℕ := 48 * 3600
  gates : LiveGateConfig := {}
  continuation : ContinuationConfig := {}
  antiParabolic : AntiParabolicConfig := {}

/-- The same configuration under another guard for an A+ at its peak. -/
def EntryConfig.withPeakGuard (cfg : EntryConfig) (guard : ContinuationAplusPeakGuardConfig) :
    EntryConfig :=
  { cfg with continuation := { cfg.continuation with aplusPeakGuard := guard } }

structure ScoringPipelineInput where
  mint : Address
  dev : Address
  devStats : Option CreatorStatistics
  isSpamDev : Bool
  bucketForScore : TokenBucket
  fromFreshWatchlist : Bool

/-- What the actors answer on the way, each at its own moment. -/
structure EntryAnswers where
  /-- The launchpad, to the slices of the scoring window. -/
  window : ℕ → Option LiveSample
  /-- The launchpad, to those of the confirmation window. -/
  confirm : ℕ → Option LiveSample
  /-- The launchpad, to those of the second look. -/
  recheck : ℕ → Option LiveSample
  /-- What was learned. -/
  patch : FeatureThresholdPatch
  /-- The swarm of the scored bucket. -/
  regulars : List (Address × Trader)
  snipers : List (Address × Trader)
  trader : Address → Option Trader
  devRanker : DevRanker
  rankedAt : ℕ
  /-- The registry when the smart wallets are counted, and when they are listed. -/
  counting : SmartMoney
  countedAt : ℕ
  listing : SmartMoney
  listedAt : ℕ
  operatorCap : ℚ

/-! ## Features -/

/-- The early buyers with what they paid and hold. The counters are those of the tape. -/
structure EarlyBuyersTape where
  buyers : EarlyBuyersSnapshot
  buySizesSol : List ℚ
  buyVolumeSol : ℚ
  stillLong : ℕ
  alreadySold : ℕ
  bundle : BundleStats

def earlyBuyersTape (regulars snipers : List (Address × Trader)) (tolerance : ℚ) :
    EarlyBuyersTape :=
  let rows := regulars ++ snipers
  let counts := rows.foldl TapeCounts.scan .zero
  let buySizesSol := (rows.map fun row => row.2.totalSpent.toFloat).filter (0 < ·)
  { buyers := ⟨regulars.map Prod.fst, snipers.map Prod.fst⟩
    buySizesSol
    buyVolumeSol := counts.buyVolumeSol
    stillLong := counts.stillLong
    alreadySold := counts.alreadySold
    bundle := computeBundleStats buySizesSol tolerance }

/-- The market cap of the bucket's pool, `none` where it divides by zero. -/
def TokenBucket.poolMcap (b : TokenBucket) : Option ℚ := b.pool.marketCap.map (·.amount.toFloat)

/-- The pool as the manager reads it. -/
def TokenBucket.signalPool (b : TokenBucket) : Pool where
  mint := b.pool.mint
  marketCap := b.pool.marketCap.elim (.fromRaw 0 9) (·.amount)

/-- `{:?}`. -/
def Tier.name : Tier → String
  | .aPlus => "APlus"
  | .a => "A"
  | .b => "B"
  | .skip => "Skip"

/-- The snapshot that goes with the position. -/
def LearningTradeSnapshot.fromScoring (f : TokenFeatures) (breakdown : ScoreBreakdown) :
    LearningTradeSnapshot where
  entryMcapSol := f.currentMcapSol
  smartWalletCount := f.smartWalletCount
  velocityPct := scoringMomentumPct f
  bundleSimilar := f.bundle.similarSizeRatio
  bundleIdentical := f.bundle.identicalSizeRatio
  buyerCount := f.buyerCount
  buyToSellRatio := f.buyToSellRatio
  scoreTotal := breakdown.total
  tier := breakdown.tier.name
  sellPressureScore := f.sellPressureScore
  smartWalletEarlyExits := f.smartWalletEarlyExits
  hasMomentumGood := Loggaper.hasMomentumGood breakdown.items

/-- A scored token with what its signal names. -/
structure Scored where
  entry : ScoredEntry
  bucket : TokenBucket
  buyersForPosition : List Address

section
variable (tanh : ℚ → ℚ) (cfg : EntryConfig) (input : ScoringPipelineInput) (ans : EntryAnswers)

/-- A developer without statistics is fresh; the others are ranked. -/
def devStanding : DevCategory × DevRecord :=
  if input.devStats.isNone && cfg.scoring.tierB.enabled && !input.isSpamDev then (.fresh, {})
  else ans.devRanker.category input.dev ans.rankedAt cfg.entityTtlSecs

/-- Smart wallets among the early buyers that have sold all they bought. -/
def smartEarlyExits (buyers : List Address) : ℕ :=
  (ans.listing.filterSmartWallets ans.listedAt cfg.entityTtlSecs buyers).countP fun a =>
    (ans.trader a).any fun t => t.currentHoldings.raw == 0 && decide (0 < t.totalSpent.raw)

/-- Stage 2: the scoring window. -/
def scoringWindow : LiveTapeObserve :=
  observeEarlyTapePointsLive ans.window cfg.scoringWindowMs (max cfg.buyerVelocitySlices 1)
    (some cfg.scoring.thresholds.momentumGoodLowPct)

def scoringBucket : TokenBucket := (scoringWindow cfg ans).lastBucket.getD input.bucketForScore

/-- The market cap of the first sample; without one, that of the bucket. -/
def initialMcap : Option ℚ :=
  let observed := scoringWindow cfg ans
  if 0 < observed.initialMcapSol then some observed.initialMcapSol
  else (scoringBucket cfg input ans).poolMcap

/-- The early buyers that stage 3 sees. -/
def earlyBuyers : EarlyBuyersTape :=
  earlyBuyersTape ans.regulars ans.snipers
    (scoringThresholds cfg.scoring ans.patch).bundleSimilarTolerance

def smartCount : ℕ :=
  ans.counting.countSmart ans.countedAt cfg.entityTtlSecs (earlyBuyers cfg ans).buyers.all

/-- Stage 3: the features. -/
def tokenFeatures (initialMcapSol : ℚ) : TokenFeatures :=
  let observed := scoringWindow cfg ans
  let early := earlyBuyers cfg ans
  let standing := devStanding cfg input ans
  let tape := ScoringTapeDerived.fromTapePoints tanh observed.points
    (smartEarlyExits cfg ans early.buyers.all)
  { assemble input.mint input.dev input.devStats standing.1 standing.2 initialMcapSol
      observed.currentMcapSol (peakForScore observed) early.buyers early.buyers.regulars.length
      early.buyers.snipers.length early.buyVolumeSol early.stillLong early.alreadySold early.bundle
      (smartCount cfg ans) tape with
    isSpamDev := input.isSpamDev }

def scoreAt (initialMcapSol : ℚ) : Scored :=
  let f := tokenFeatures tanh cfg input ans initialMcapSol
  let observed := scoringWindow cfg ans
  { entry :=
      { features := f
        breakdown := ScoreEngine.score cfg.scoring f (scoringThresholds cfg.scoring ans.patch)
        smartCount := smartCount cfg ans
        currentMcapSol := observed.currentMcapSol
        peakMcapSol := peakForScore observed }
    bucket := scoringBucket cfg input ans
    buyersForPosition := (earlyBuyers cfg ans).buyers.all }

/-- `none` where the market cap of the bucket divides by zero. -/
def scoreToken : Option Scored :=
  (initialMcap cfg input ans).map (scoreAt tanh cfg input ans)

end

/-! ## The end of the pipeline -/

/-- How the pipeline ends. -/
inductive EntryOutcome
  | skipped (skip : Skip)
  | sent (signal : PositionMessage)
  deriving DecidableEq

def EntryOutcome.signal? : EntryOutcome → Option PositionMessage
  | .skipped _ => none
  | .sent msg => some msg

/-- The reason that is logged for a token without a tier. -/
def scoreSkip (cfg : ScoringConfig) (entry : ScoredEntry) : Skip :=
  let failReason :=
    if tierBDevEligible entry.features cfg.tierB then
      freshBGateFailReason cfg.tierB entry.features entry.breakdown.items
    else none
  match failReason with
  | some reason => ⟨"fresh_b_gate", reason⟩
  | none => ⟨"score_skip", "tier_skip"⟩

/-- A weak token without smart wallets at its peak. -/
def parabolicPeakSuspect (cfg : AntiParabolicConfig) (isAPlus : Bool) (score : ℤ)
    (smartCount : ℕ) (currentMcap peakMcap : ℚ) : Bool :=
  if !cfg.enabled then false
  else if isAPlus || decide (0 < smartCount) || decide (cfg.weakScoreMax < score) then false
  else if peakMcap ≤ 0 then false
  else decide (peakMcap * cfg.nearPeakRatio ≤ currentMcap)

/-- Without strong demand in the confirmation window. -/
def parabolicSkip (cfg : AntiParabolicConfig) (entry : ScoredEntry)
    (confirm : List EarlyTapePoint) : Option Skip :=
  let suspect := parabolicPeakSuspect cfg entry.isAPlus entry.breakdown.total entry.smartCount
    entry.currentMcapSol entry.peakMcapSol
  let (upticks, newBuyers) := continuationStrength confirm entry.baselineBuyers
  if suspect && !(decide (cfg.strongUpticks ≤ upticks) && decide (cfg.strongNewBuyers ≤ newBuyers))
  then some ⟨"parabolic_peak_entry", "weak_peak_no_demand"⟩ else none

section
variable (tanh : ℚ → ℚ) (cfg : EntryConfig) (input : ScoringPipelineInput) (ans : EntryAnswers)

def contEnabled : Bool := cfg.mode == .live && cfg.continuation.enabled

def parabEnabled : Bool := cfg.mode == .live && cfg.antiParabolic.enabled

/-- The confirmation window, in the settings of the continuation gate if that is active. -/
def confirmWindow : LiveTapeObserve :=
  if contEnabled cfg then
    observeEarlyTapePointsLive ans.confirm cfg.continuation.confirmWindowMs
      cfg.continuation.confirmSlices none
  else
    observeEarlyTapePointsLive ans.confirm cfg.antiParabolic.confirmWindowMs
      cfg.antiParabolic.confirmSlices none

def recheckWindow : LiveTapeObserve :=
  observeEarlyTapePointsLive ans.recheck cfg.continuation.secondLook.recheckWindowMs
    cfg.continuation.secondLook.recheckSlices none

def continuationSkip (entry : ScoredEntry) : Option Skip :=
  (entry.continuationSkipReason cfg.continuation cfg.gates.weakAGate.toWeakATierGateConfig
    (confirmWindow cfg ans).toEarlyTapeObserveResult
    (recheckWindow cfg ans).toEarlyTapeObserveResult).map (⟨"continuation", ·⟩)

/-- The two gates that look at the confirmation window. -/
def confirmSkip (entry : ScoredEntry) : Option Skip :=
  (if contEnabled cfg then continuationSkip cfg ans entry else none).or
    (if parabEnabled cfg then parabolicSkip cfg.antiParabolic entry (confirmWindow cfg ans).points
    else none)

/-- The gates of the mode; the simulation has none. -/
def modeGateSkip (entry : ScoredEntry) : Option Skip :=
  if cfg.mode = .live then liveGateSkip cfg.gates cfg.scoring.antiRug input.isSpamDev entry
  else none

/-- Stage 4: the size, and the signal. -/
def buySignal (scored : Scored) : Option PositionMessage :=
  dispatchBuy cfg.scoring.size ans.operatorCap scored.bucket.signalPool
    scored.entry.breakdown.tier input.dev scored.buyersForPosition
    (.fromScoring scored.entry.features scored.entry.breakdown)

def finishEntry (scored : Scored) : EntryOutcome :=
  if scored.entry.breakdown.tier = .skip then .skipped (scoreSkip cfg.scoring scored.entry)
  else
    match modeGateSkip cfg input scored.entry with
    | some skip => .skipped skip
    | none =>
      match buySignal cfg input ans scored with
      | none => .skipped ⟨"size_zero", "operator_cap"⟩
      | some msg =>
        match confirmSkip cfg ans scored.entry with
        | some skip => .skipped skip
        | none => .sent msg

/-- `none` where the task of the token stops without an outcome. -/
def runScoringAndBuy : Option EntryOutcome :=
  (scoreToken tanh cfg input ans).map (finishEntry cfg input ans)

end

/-! ## What a sent signal has passed -/

section
variable {tanh : ℚ → ℚ} {cfg : EntryConfig} {input : ScoringPipelineInput} {ans : EntryAnswers}
  {scored : Scored} {msg : PositionMessage}

theorem finishEntry_eq_sent_iff : finishEntry cfg input ans scored = .sent msg ↔
    scored.entry.breakdown.tier ≠ .skip ∧ modeGateSkip cfg input scored.entry = none ∧
      buySignal cfg input ans scored = some msg ∧ confirmSkip cfg ans scored.entry = none := by
  unfold finishEntry
  split_ifs with htier
  · exact iff_of_false not_false fun h => h.1 htier
  · cases modeGateSkip cfg input scored.entry with
    | some skip => simp
    | none =>
      cases buySignal cfg input ans scored with
      | none => simp
      | some m =>
        cases confirmSkip cfg ans scored.entry with
        | some skip => simp
        | none => simp [htier]

/-- What a sent signal has passed. -/
theorem sent_iff : runScoringAndBuy tanh cfg input ans = some (.sent msg) ↔
    ∃ scored, scoreToken tanh cfg input ans = some scored ∧
      scored.entry.breakdown.tier ≠ .skip ∧ modeGateSkip cfg input scored.entry = none ∧
      buySignal cfg input ans scored = some msg ∧ confirmSkip cfg ans scored.entry = none := by
  rw [runScoringAndBuy, Option.map_eq_some_iff]
  exact exists_congr fun scored => and_congr_right fun _ => finishEntry_eq_sent_iff

end

/-! ## What a signal says -/

section
variable {tanh : ℚ → ℚ} {cfg : EntryConfig} {input : ScoringPipelineInput} {ans : EntryAnswers}
  {scored : Scored} {msg : PositionMessage}

/-- What the score of a token rests on. -/
structure ScoredFrom (cfg : EntryConfig) (input : ScoringPipelineInput) (ans : EntryAnswers)
    (scored : Scored) : Prop where
  spam : scored.entry.features.isSpamDev = input.isSpamDev
  category : scored.entry.features.devCategory = (devStanding cfg input ans).1
  smart : scored.entry.features.smartWalletCount = scored.entry.smartCount
  breakdown : scored.entry.breakdown =
    ScoreEngine.score cfg.scoring scored.entry.features (scoringThresholds cfg.scoring ans.patch)

theorem scoreToken_spec (h : scoreToken tanh cfg input ans = some scored) :
    ScoredFrom cfg input ans scored := by
  obtain ⟨initialMcapSol, -, rfl⟩ := Option.map_eq_some_iff.mp h
  exact ⟨rfl, rfl, rfl, rfl⟩

/-- A developer without statistics, who is not spam, while the lane is open. -/
structure FreshInput (cfg : EntryConfig) (input : ScoringPipelineInput) : Prop where
  no_stats : input.devStats = none
  lane_open : cfg.scoring.tierB.enabled = true
  not_spam : input.isSpamDev = false

theorem devStanding_of_fresh (h : FreshInput cfg input) :
    (devStanding cfg input ans).1 = .fresh := by
  rw [devStanding, h.no_stats, h.lane_open, h.not_spam]
  rfl

theorem fresh_of_eligible (h : ScoredFrom cfg input ans scored)
    (heligible : tierBDevEligible scored.entry.features cfg.scoring.tierB = true) :
    FreshInput cfg input := by
  obtain ⟨henabled, hspam, hfresh⟩ := tierBDevEligible_iff.mp heligible
  rw [h.spam] at hspam
  refine ⟨?_, henabled, hspam⟩
  by_contra hstats
  have hsome : input.devStats.isNone = false := by
    cases hinput : input.devStats with
    | none => exact absurd hinput hstats
    | some s => rfl
  rw [h.category, devStanding, hsome] at hfresh
  exact DevRanker.category_ne_fresh _ _ _ _ hfresh

/-- **The lanes do not cross.** A token that is not skipped has tier B exactly in the lane of fresh
developers. -/
theorem tier_b_iff_fresh (h : ScoredFrom cfg input ans scored)
    (htier : scored.entry.breakdown.tier ≠ .skip) :
    scored.entry.breakdown.tier = .b ↔ FreshInput cfg input := by
  obtain ⟨s, hs⟩ := ScoreEngine.score_eq cfg.scoring scored.entry.features
    (scoringThresholds cfg.scoring ans.patch)
  rw [← h.breakdown] at hs
  rw [hs] at htier ⊢
  constructor
  · intro hb
    by_contra hfresh
    exact ScoreEngine.finishBreakdown_tier_ne_b
      (fun heligible => hfresh (fresh_of_eligible h heligible)) hb
  · intro hfresh
    have heligible : tierBDevEligible scored.entry.features cfg.scoring.tierB = true := by
      rw [tierBDevEligible_iff, h.spam, h.category, devStanding_of_fresh hfresh]
      exact ⟨hfresh.lane_open, hfresh.not_spam, rfl⟩
    rw [ScoreEngine.finishBreakdown_tier_of_eligible heligible] at htier ⊢
    split_ifs at htier ⊢ with hpasses
    · rfl
    · exact absurd rfl htier

/-- A signal within its size and with the evidence that its tier needs. -/
structure SoundSignal (cfg : EntryConfig) (ans : EntryAnswers) (amountSol : ℚ) (tier : Tier)
    (snap : LearningTradeSnapshot) : Prop where
  amount_pos : f64Epsilon < amountSol
  within_cap : amountSol ≤ ans.operatorCap
  within_size : amountSol ≤ cfg.scoring.size.recommendedSizeSol tier
  not_skip : tier ≠ .skip
  minimum : cfg.mode = .live → cfg.gates.minimumTierForBuy = .aPlus → tier ≠ .a
  smart : cfg.mode = .live → tier = .aPlus → 1 ≤ snap.smartWalletCount
  moving : cfg.mode = .live → tier = .a → tierAMinVelocityPct ≤ snap.velocityPct

/-- What a signal says about the token that the pipeline was given. -/
structure Justified (cfg : EntryConfig) (input : ScoringPipelineInput) (ans : EntryAnswers)
    (amountSol : ℚ) (tier : Tier) (snap : LearningTradeSnapshot) : Prop
    extends SoundSignal cfg ans amountSol tier snap where
  lane : tier = .b ↔ FreshInput cfg input
  spam : cfg.mode = .live → input.isSpamDev = true → cfg.gates.spamDevRequireAPlus = true →
    tier = .aPlus

theorem dispatchBuy_bounds {size : SizeConfig} {operatorCap : ℚ} {pool : Pool} {tier : Tier}
    {dev : Address} {buyers : List Address} {snap : LearningTradeSnapshot}
    (h : dispatchBuy size operatorCap pool tier dev buyers snap = some msg) :
    ∃ amountSol, msg = .initiateBuy pool amountSol tier (some dev) buyers (some snap) ∧
      f64Epsilon < amountSol ∧ amountSol ≤ operatorCap ∧
      amountSol ≤ size.recommendedSizeSol tier := by
  simp only [dispatchBuy] at h
  split_ifs at h with hzero
  cases h
  have hpos := not_le.mp hzero
  have hmin : 0 < min (size.recommendedSizeSol tier) operatorCap := by
    rcases lt_max_iff.mp (f64Epsilon_pos.trans hpos) with hmin | hself
    · exact hmin
    · exact absurd hself (lt_irrefl 0)
  refine ⟨_, rfl, hpos, ?_⟩
  rw [max_eq_left hmin.le]
  exact ⟨min_le_right _ _, min_le_left _ _⟩

theorem justified_of_sent (h : runScoringAndBuy tanh cfg input ans = some (.sent msg)) :
    ∃ pool amountSol tier buyers snap,
      msg = .initiateBuy pool amountSol tier (some input.dev) buyers (some snap) ∧
      Justified cfg input ans amountSol tier snap := by
  obtain ⟨scored, hscored, htier, hgate, hsignal, -⟩ := sent_iff.mp h
  have hfrom := scoreToken_spec hscored
  obtain ⟨amountSol, hmsg, hpos, hcap, hsize⟩ := dispatchBuy_bounds hsignal
  have hpasses : cfg.mode = .live →
      PassesLiveGates cfg.gates cfg.scoring.antiRug input.isSpamDev scored.entry := by
    intro hmode
    rw [modeGateSkip, if_pos hmode] at hgate
    exact liveGateSkip_eq_none_iff.mp hgate
  refine ⟨_, _, _, _, _, hmsg, ⟨hpos, hcap, hsize, htier, ?_, ?_, fun hmode => ?_⟩,
    tier_b_iff_fresh hfrom htier, fun hmode => (hpasses hmode).spam_dev⟩
  · intro hmode hminimum ha
    rcases (hpasses hmode).minimum_tier hminimum with haPlus | hb
    · exact Tier.noConfusion (ha.symm.trans haPlus)
    · exact Tier.noConfusion (ha.symm.trans hb)
  · intro hmode haPlus
    have hsmart := (hpasses hmode).smart_aPlus haPlus
    rw [← hfrom.smart] at hsmart
    exact hsmart
  · exact (hpasses hmode).moving_a

end

/-! ## The peak guard -/

section
variable {cfg : ContinuationConfig} {weakCfg : WeakATierGateConfig} {entry : ScoredEntry}
  {confirm recheck : EarlyTapeObserveResult}

/-- The guard is for an A+ without smart wallets. -/
theorem aplusPeakNoSmartGuard_eq_false {guard : ContinuationAplusPeakGuardConfig}
    (h : entry.breakdown.tier = .aPlus → 1 ≤ entry.smartCount) (current peak : ℚ) :
    aplusPeakNoSmartGuard guard entry.isAPlus entry.smartCount current peak = false := by
  have hidle : (!guard.enabled || !entry.isAPlus || decide (0 < entry.smartCount)) = true := by
    by_cases htier : entry.breakdown.tier = .aPlus
    · have hsmart : 0 < entry.smartCount := h htier
      simp [hsmart]
    · simp [ScoredEntry.isAPlus, htier]
  rw [aplusPeakNoSmartGuard, if_pos hidle]

/-- Where the guard is silent the stage does not read its settings. -/
theorem continuationSkipReason_guard (guard : ContinuationAplusPeakGuardConfig)
    (h : entry.breakdown.tier = .aPlus → 1 ≤ entry.smartCount) :
    entry.continuationSkipReason { cfg with aplusPeakGuard := guard } weakCfg confirm recheck =
      entry.continuationSkipReason cfg weakCfg confirm recheck := by
  have hdefer : ∀ cfg : ContinuationConfig, entry.needsPeakDefer cfg confirm = false := by
    intro cfg
    rw [ScoredEntry.needsPeakDefer, aplusPeakNoSmartGuard_eq_false h, Bool.false_and]
  rw [ScoredEntry.continuationSkipReason, ScoredEntry.continuationSkipReason, hdefer, hdefer]
  rfl

end

section
variable (tanh : ℚ → ℚ) (cfg : EntryConfig) (input : ScoringPipelineInput) (ans : EntryAnswers)

theorem confirmSkip_guard (guard : ContinuationAplusPeakGuardConfig) {entry : ScoredEntry}
    (h : entry.breakdown.tier = .aPlus → 1 ≤ entry.smartCount) :
    confirmSkip (cfg.withPeakGuard guard) ans entry = confirmSkip cfg ans entry := by
  have hreason : continuationSkip (cfg.withPeakGuard guard) ans entry =
      continuationSkip cfg ans entry :=
    congrArg (Option.map _) (continuationSkipReason_guard guard h)
  rw [confirmSkip, confirmSkip, hreason]
  rfl

/-- The confirmation window is for live buys. -/
theorem confirmSkip_demo {cfg : EntryConfig} (hmode : cfg.mode = .demo) (entry : ScoredEntry) :
    confirmSkip cfg ans entry = none := by
  simp [confirmSkip, contEnabled, parabEnabled, hmode]

/-- **The peak guard decides nothing.** A live A+ without smart wallets never reaches the
confirmation window, and the guard is for no other token: under any settings of it the pipeline ends
the same way. -/
theorem aplusPeakGuard_idle (guard : ContinuationAplusPeakGuardConfig) :
    runScoringAndBuy tanh (cfg.withPeakGuard guard) input ans =
      runScoringAndBuy tanh cfg input ans := by
  have hscore : scoreToken tanh (cfg.withPeakGuard guard) input ans =
      scoreToken tanh cfg input ans := rfl
  rw [runScoringAndBuy, runScoringAndBuy, hscore]
  refine Option.map_congr fun scored _ => ?_
  have hgates : modeGateSkip (cfg.withPeakGuard guard) input scored.entry =
      modeGateSkip cfg input scored.entry := rfl
  have hsignal : buySignal (cfg.withPeakGuard guard) input ans scored =
      buySignal cfg input ans scored := rfl
  have hreason : scoreSkip (cfg.withPeakGuard guard).scoring scored.entry =
      scoreSkip cfg.scoring scored.entry := rfl
  rw [finishEntry, finishEntry, hgates, hsignal, hreason]
  cases hgate : modeGateSkip cfg input scored.entry with
  | some skip => rfl
  | none =>
    -- what passes the gates is an A+ with a smart wallet, or no A+, or in the simulation
    have hconfirm : confirmSkip (cfg.withPeakGuard guard) ans scored.entry =
        confirmSkip cfg ans scored.entry := by
      cases hmode : cfg.mode with
      | demo =>
        have hdemo : (cfg.withPeakGuard guard).mode = .demo := hmode
        rw [confirmSkip_demo ans hmode, confirmSkip_demo ans hdemo]
      | live =>
        rw [modeGateSkip, if_pos hmode] at hgate
        exact confirmSkip_guard cfg ans guard (liveGateSkip_eq_none_iff.mp hgate).smart_aPlus
    rw [hconfirm]

end

end Loggaper
