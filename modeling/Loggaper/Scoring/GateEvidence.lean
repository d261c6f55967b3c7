import Loggaper.Scoring.ScoreItems

/-!
# Items as evidence

The live gates do not look at the tape again. They look up items of the score by name: the momentum
gate asks for `momentum_good`, the bypass for a strong A for six red flags. An item without points
is not listed, so an item whose weight is zero is evidence of nothing.

- `ItemEvidence.gateLookups_eq_iff`: when two sets of weights give the gates the same answers.
- `ScoreEngine.itemsInOrder`: the total is the sum of the items, no name comes twice, and a
  momentum is never both good and overheated.
-/

namespace Loggaper

open ScoreItems

/-! ## The momentum gate -/

/-- A strong tape that lets a tier A pass without a good momentum. -/
structure MomentumGoodStrongABypassConfig where
  enabled : Bool := true
  minScore : ℤ := 8
  minBuyers : ℕ := 8
  minBuyVolumeSol : ℚ := 8
  minBuyToSellRatio : ℚ := 17 / 10
  requireAbsorbStrong : Bool := true
  minAbsorbQuality : ℚ := 29 / 50
  requireBuyerVelocityPersistent : Bool := true
  minBuyerVelocityPersistence : ℚ := 31 / 50

/-- Tape red flags: weak setups and distribution. -/
def hasTapeRedFlag (items : ScoreItems) : Bool :=
  items.has "buyer_velocity_fading" || items.has "momentum_overheated" ||
    items.has "repeat_dump_cluster" || items.has "sell_pressure_high" ||
    items.has "bundle_identical" || items.has "bundle_similar"

def strongAMomentumBypassOk (cfg : MomentumGoodStrongABypassConfig) (tier : Tier) (score : ℤ)
    (f : TokenFeatures) (items : ScoreItems) : Bool :=
  if !cfg.enabled || tier != .a || decide (score < cfg.minScore) then false
  else if hasTapeRedFlag items then false
  else if f.buyerCount < cfg.minBuyers then false
  else if f.buyVolumeSol < cfg.minBuyVolumeSol then false
  else if f.buyToSellRatio < cfg.minBuyToSellRatio then false
  else
    let absorbOk := !cfg.requireAbsorbStrong || items.has "absorb_strong" ||
      decide (cfg.minAbsorbQuality ≤ f.absorbQualityScore)
    let velocityOk :=
      !cfg.requireBuyerVelocityPersistent || items.has "buyer_velocity_persistent" ||
      decide (cfg.minBuyerVelocityPersistence ≤ f.buyerVelocityPersistence)
    absorbOk && velocityOk

/-- The settings of the momentum gate in the scoring configuration; a bypass of zero is off. -/
structure MomentumGateConfig where
  requireMomentumGood : Bool := true
  momentumGoodSmartBypass : ℕ := 2
  momentumGoodAplusSmartBypass : ℕ := 1
  momentumGoodStrongA : MomentumGoodStrongABypassConfig := {}

/-- Whether the gate of a live buy has its good momentum, or one of the bypasses. -/
def momentumGoodSatisfied (cfg : MomentumGateConfig) (smartCount : ℕ) (f : TokenFeatures)
    (breakdown : ScoreBreakdown) : Bool :=
  let aplusSmartOk := decide (0 < cfg.momentumGoodAplusSmartBypass) && breakdown.tier == .aPlus &&
    decide (cfg.momentumGoodAplusSmartBypass ≤ smartCount)
  hasMomentumGood breakdown.items ||
    (decide (0 < cfg.momentumGoodSmartBypass) &&
      decide (cfg.momentumGoodSmartBypass ≤ smartCount)) ||
    aplusSmartOk ||
    strongAMomentumBypassOk cfg.momentumGoodStrongA breakdown.tier breakdown.total f
      breakdown.items ||
    breakdown.aMomentumOverride || breakdown.aPlusMomentumOverride ||
    (breakdown.tier == .b && breakdown.freshBHotOverride)

/-- A live buy is skipped here. -/
def skipsForMomentum (cfg : MomentumGateConfig) (smartCount : ℕ) (f : TokenFeatures)
    (breakdown : ScoreBreakdown) : Bool :=
  cfg.requireMomentumGood && !momentumGoodSatisfied cfg smartCount f breakdown

/-! ## What the gates look up -/

/-- The items that the momentum gates look up. -/
inductive ItemEvidence
  | momentumGood | momentumOverheated | velocityFading | repeatDump | sellPressure
  | bundleIdentical | bundleSimilar | velocityPersistent | absorbStrong
  deriving DecidableEq

namespace ItemEvidence

def name : ItemEvidence → String
  | momentumGood => "momentum_good"
  | momentumOverheated => "momentum_overheated"
  | velocityFading => "buyer_velocity_fading"
  | repeatDump => "repeat_dump_cluster"
  | sellPressure => "sell_pressure_high"
  | bundleIdentical => "bundle_identical"
  | bundleSimilar => "bundle_similar"
  | velocityPersistent => "buyer_velocity_persistent"
  | absorbStrong => "absorb_strong"

def weight (w : ScoringWeights) : ItemEvidence → ℤ
  | momentumGood => w.momentumGood
  | momentumOverheated => w.momentumOverheated
  | velocityFading => w.buyerVelocityFading
  | repeatDump => w.repeatDumpPenalty
  | sellPressure => w.sellPressureHigh
  | bundleIdentical => w.bundleIdentical
  | bundleSimilar => w.bundleSimilar
  | velocityPersistent => w.buyerVelocityPersistent
  | absorbStrong => w.absorbStrong

open ScoreEngine in
/-- Whether the features show it. No weight is read here. -/
def shown (cfg : ScoringConfig) (f : TokenFeatures) (t : FeatureThresholds) : ItemEvidence → Bool
  | momentumGood => goodMomentum cfg f t
  | momentumOverheated => overheatedMomentum cfg f t
  | velocityFading => fadingVelocity cfg f
  | repeatDump => decide (1 ≤ f.repeatDumpSlices)
  | sellPressure => decide (29 / 50 ≤ f.sellPressureScore)
  | bundleIdentical => identicalBundle cfg f t
  | bundleSimilar => similarBundle cfg f t
  | velocityPersistent => persistentVelocity cfg f
  | absorbStrong => strongAbsorption cfg f

/-- The red flags of the bypass. -/
def redFlags : List ItemEvidence :=
  [velocityFading, momentumOverheated, repeatDump, sellPressure, bundleIdentical, bundleSimilar]

end ItemEvidence

theorem hasTapeRedFlag_eq (items : ScoreItems) :
    hasTapeRedFlag items = ItemEvidence.redFlags.any fun e => items.has e.name := by
  simp [hasTapeRedFlag, ItemEvidence.redFlags, ItemEvidence.name, Bool.or_assoc]

theorem saturatingMul_eq_zero_iff {x k : ℤ} (hk : 1 ≤ k) : saturatingMul x k = 0 ↔ x = 0 := by
  constructor
  · intro h
    have hprod : x * k = 0 := by
      unfold saturatingMul at h
      omega
    rcases mul_eq_zero.mp hprod with hx | hzero
    · exact hx
    · omega
  · rintro rfl
    simp [saturatingMul]

namespace ScoreEngine

variable (cfg : ScoringConfig) (f : TokenFeatures) (t : FeatureThresholds)

theorem dumpPoints_bne_zero : (dumpPoints cfg f != 0) = (cfg.weights.repeatDumpPenalty != 0) := by
  rw [Bool.eq_iff_iff, bne_iff_ne, bne_iff_ne, Ne, Ne, dumpPoints,
    saturatingMul_eq_zero_iff (by split_ifs <;> norm_num)]

/-- A name that a part of the engine cannot enter is not listed there. -/
theorem has_listed_eq_false {es : ScoreItems} {names : List String} {name : String}
    (hsub : (es.map Prod.fst).Sublist names) (hname : name ∉ names) :
    has (listed es) name = false := by
  rw [has, List.any_eq_false]
  intro e he hsame
  rw [beq_iff_eq] at hsame
  refine hname (hsub.subset (hsame ▸ List.mem_map_of_mem ?_))
  exact List.mem_of_mem_filter he

/-- **An item is listed exactly when the features show it and its weight is not zero.** -/
theorem has_listed_entries (e : ItemEvidence) :
    has (listed (entries cfg f t)) e.name =
      (e.shown cfg f t && e.weight cfg.weights != 0) := by
  have hsmart : has (listed (smartEntries cfg f t)) e.name = false :=
    has_listed_eq_false (names_smartEntries cfg f t) (by cases e <;> decide)
  have hbuyers : has (listed (buyersEntries cfg f t)) e.name = false :=
    has_listed_eq_false (names_buyersEntries cfg f t) (by cases e <;> decide)
  simp only [entries, has_listed_append, hsmart, hbuyers, Bool.false_or]
  cases e <;>
    simp [devEntries, ratioEntries, momentumEntries, volumeEntries, bundleEntries, velocityEntries,
      sellEntries, dumpEntries, ItemEvidence.name, ItemEvidence.shown, ItemEvidence.weight,
      dumpPoints_bne_zero]

/-! ## Items in order -/

/-- The list of items as the gates and the log rely on it. -/
structure ItemsInOrder (breakdown : ScoreBreakdown) : Prop where
  total : breakdown.total = wrapI32 (points breakdown.items)
  names : (breakdown.items.map Prod.fst).Nodup
  momentum : ¬ (hasMomentumGood breakdown.items = true ∧
    hasMomentumOverheated breakdown.items = true)

/-- No band is both. -/
theorem not_good_and_overheated :
    (goodMomentum cfg f t && overheatedMomentum cfg f t) = false := by
  unfold goodMomentum overheatedMomentum
  cases cfg.legacyScoring with
  | true => by_cases hhot : t.momentumOverheatedPct ≤ scoringMomentumPct f <;> simp [hhot]
  | false => cases inGoodBand t (scoringMomentumPct f) <;> simp

theorem hasMomentumGood_score :
    hasMomentumGood (score cfg f t).items =
      (ItemEvidence.momentumGood.shown cfg f (thresholdsInUse cfg t) &&
        cfg.weights.momentumGood != 0) := by
  rw [score_items]
  exact has_listed_entries cfg f _ .momentumGood

theorem hasMomentumOverheated_score :
    hasMomentumOverheated (score cfg f t).items =
      (ItemEvidence.momentumOverheated.shown cfg f (thresholdsInUse cfg t) &&
        cfg.weights.momentumOverheated != 0) := by
  rw [score_items]
  exact has_listed_entries cfg f _ .momentumOverheated

theorem itemsInOrder : ItemsInOrder (score cfg f t) := by
  constructor
  · exact score_total cfg f t
  · rw [score_items]
    exact (names_listed_sublist _).nodup (nodup_entries cfg f _)
  · rw [hasMomentumGood_score, hasMomentumOverheated_score]
    have hboth := not_good_and_overheated cfg f (thresholdsInUse cfg t)
    simp only [ItemEvidence.shown]
    revert hboth
    cases goodMomentum cfg f (thresholdsInUse cfg t) <;>
      cases overheatedMomentum cfg f (thresholdsInUse cfg t) <;> simp

end ScoreEngine

/-! ## Two sets of weights -/

/-- The answers to what the gates look up. -/
structure GateLookups where
  momentumGood : Bool
  momentumOverheated : Bool
  tapeRedFlag : Bool
  deriving DecidableEq

def GateLookups.of (items : ScoreItems) : GateLookups where
  momentumGood := hasMomentumGood items
  momentumOverheated := hasMomentumOverheated items
  tapeRedFlag := hasTapeRedFlag items

namespace ItemEvidence

variable (cfg : ScoringConfig) (f : TokenFeatures) (t : FeatureThresholds)

/-- The features show it, and these weights give it points. -/
def counts (w : ScoringWeights) (e : ItemEvidence) : Prop :=
  e.shown cfg f t = true ∧ e.weight w ≠ 0

/-- The weights leave the same evidence without points, as far as this token shows it; among the red
flags one is as good as another. -/
structure SameCounting (w w' : ScoringWeights) : Prop where
  good : counts cfg f t w momentumGood ↔ counts cfg f t w' momentumGood
  overheated : counts cfg f t w momentumOverheated ↔ counts cfg f t w' momentumOverheated
  redFlag : (∃ e ∈ redFlags, counts cfg f t w e) ↔ ∃ e ∈ redFlags, counts cfg f t w' e

theorem shown_withWeights (w : ScoringWeights) (e : ItemEvidence) :
    e.shown { cfg with weights := w } f t = e.shown cfg f t := by
  cases e <;> rfl

/-- What the gates find are the items that count. -/
theorem has_score_iff (w : ScoringWeights) (e : ItemEvidence) :
    (ScoreEngine.score { cfg with weights := w } f t).items.has e.name = true ↔
      counts cfg f (ScoreEngine.thresholdsInUse cfg t) w e := by
  rw [ScoreEngine.score_items, ScoreEngine.has_listed_entries, shown_withWeights, counts,
    Bool.and_eq_true, bne_iff_ne]
  rfl

theorem hasMomentumGood_score_iff (w : ScoringWeights) :
    hasMomentumGood (ScoreEngine.score { cfg with weights := w } f t).items = true ↔
      counts cfg f (ScoreEngine.thresholdsInUse cfg t) w momentumGood :=
  has_score_iff cfg f t w momentumGood

theorem hasMomentumOverheated_score_iff (w : ScoringWeights) :
    hasMomentumOverheated (ScoreEngine.score { cfg with weights := w } f t).items = true ↔
      counts cfg f (ScoreEngine.thresholdsInUse cfg t) w momentumOverheated :=
  has_score_iff cfg f t w momentumOverheated

theorem hasTapeRedFlag_score_iff (w : ScoringWeights) :
    hasTapeRedFlag (ScoreEngine.score { cfg with weights := w } f t).items = true ↔
      ∃ e ∈ redFlags, counts cfg f (ScoreEngine.thresholdsInUse cfg t) w e := by
  rw [hasTapeRedFlag_eq, List.any_eq_true]
  exact exists_congr fun e => and_congr_right fun _ => has_score_iff cfg f t w e

theorem gateLookups_eq_iff (w w' : ScoringWeights) :
    GateLookups.of (ScoreEngine.score { cfg with weights := w } f t).items =
        GateLookups.of (ScoreEngine.score { cfg with weights := w' } f t).items ↔
      SameCounting cfg f (ScoreEngine.thresholdsInUse cfg t) w w' := by
  rw [GateLookups.of, GateLookups.of, GateLookups.mk.injEq,
    Bool.eq_iff_iff (a := hasMomentumGood _), Bool.eq_iff_iff (a := hasMomentumOverheated _),
    Bool.eq_iff_iff (a := hasTapeRedFlag _), hasMomentumGood_score_iff, hasMomentumGood_score_iff,
    hasMomentumOverheated_score_iff, hasMomentumOverheated_score_iff, hasTapeRedFlag_score_iff,
    hasTapeRedFlag_score_iff]
  constructor
  · rintro ⟨hgood, hhot, hred⟩
    exact ⟨hgood, hhot, hred⟩
  · rintro ⟨hgood, hhot, hred⟩
    exact ⟨hgood, hhot, hred⟩

end ItemEvidence

/-- **Items as evidence.** The gates answer the same under two sets of weights exactly when both
give points to the same evidence of the token; under each, the items are in order. -/
theorem gateEvidence (cfg : ScoringConfig) (f : TokenFeatures) (t : FeatureThresholds)
    (w w' : ScoringWeights) :
    (GateLookups.of (ScoreEngine.score { cfg with weights := w } f t).items =
        GateLookups.of (ScoreEngine.score { cfg with weights := w' } f t).items ↔
      ItemEvidence.SameCounting cfg f (ScoreEngine.thresholdsInUse cfg t) w w') ∧
    ScoreEngine.ItemsInOrder (ScoreEngine.score { cfg with weights := w } f t) :=
  ⟨ItemEvidence.gateLookups_eq_iff cfg f t w w', ScoreEngine.itemsInOrder _ f t⟩

/-- A token whose market cap grows by a fifth. -/
def growingToken : TokenFeatures :=
  assemble 1 2 none .neutral {} 50 60 60 ⟨[], []⟩ 12 0 20 12 0 .empty 0 {}

/-- **A weight of zero hides the evidence.** With the default weights the token has a good momentum,
without points for it the momentum gate finds none and skips the buy. -/
theorem zeroWeight_hides_momentum :
    GateLookups.of (ScoreEngine.score {} growingToken {}).items ≠
        GateLookups.of
          (ScoreEngine.score { weights := { momentumGood := 0 } } growingToken {}).items ∧
      skipsForMomentum {} 0 growingToken (ScoreEngine.score {} growingToken {}) = false ∧
      skipsForMomentum {} 0 growingToken
        (ScoreEngine.score { weights := { momentumGood := 0 } } growingToken {}) = true := by
  decide +kernel

end Loggaper
