import Loggaper.Scoring.ScoreEngine

/-!
# The items of a score

Each part of the engine adds its items one after the other. The *entries* of a score are these
additions with their points, zero or not; what is listed are the entries that have points.

- `ScoreEngine.score_eq_entries`: a score is the breakdown of its entries.
- `ScoreEngine.nodup_entries`: no name is entered twice.
-/

namespace Loggaper

namespace Score

/-- Add one item after the other. -/
def addAll (s : Score) (es : ScoreItems) : Score := es.foldl (fun s e => s.add e.1 e.2) s

end Score

namespace ScoreItems

/-- The entries with points. -/
def listed (es : ScoreItems) : ScoreItems := es.filter fun e => e.2 ≠ 0

def points (es : ScoreItems) : ℤ := (es.map Prod.snd).sum

/-- Whether an item of this name is in the list. -/
def has (es : ScoreItems) (name : String) : Bool := es.any (·.1 == name)

/-- One entry, if the condition holds. -/
def entryIf (c : Bool) (name : String) (points : ℤ) : ScoreItems :=
  if c then [(name, points)] else []

@[simp] theorem points_nil : points [] = 0 := rfl

@[simp] theorem points_cons (e : String × ℤ) (es : ScoreItems) :
    points (e :: es) = e.2 + points es := List.sum_cons

@[simp] theorem points_append (es es' : ScoreItems) :
    points (es ++ es') = points es + points es' := by
  simp [points]

@[simp] theorem points_entryIf (c : Bool) (name : String) (p : ℤ) :
    points (entryIf c name p) = if c then p else 0 := by
  cases c <;> simp [entryIf]

theorem points_listed (es : ScoreItems) : points (listed es) = points es := by
  induction es with
  | nil => rfl
  | cons e es ih =>
    by_cases hzero : e.2 = 0
    · rw [listed, List.filter_cons_of_neg (by simpa using hzero), points_cons, hzero, zero_add]
      exact ih
    · rw [listed, List.filter_cons_of_pos (by simpa using hzero), points_cons, points_cons]
      exact congrArg _ ih

theorem names_listed_sublist (es : ScoreItems) :
    ((listed es).map Prod.fst).Sublist (es.map Prod.fst) := List.filter_sublist.map _

/-- The name of a conditional entry. -/
theorem names_entryIf_sublist (c : Bool) (name : String) (p : ℤ) :
    ((entryIf c name p).map Prod.fst).Sublist [name] := by
  cases c
  · exact List.nil_sublist _
  · exact List.Sublist.refl _

@[simp] theorem has_listed_append (es es' : ScoreItems) (name : String) :
    has (listed (es ++ es')) name = (has (listed es) name || has (listed es') name) := by
  simp [has, listed]

@[simp] theorem has_listed_nil (name : String) : has (listed []) name = false := rfl

@[simp] theorem has_listed_cons (e : String × ℤ) (es : ScoreItems) (name : String) :
    has (listed (e :: es)) name = ((e.2 != 0 && e.1 == name) || has (listed es) name) := by
  by_cases hzero : e.2 = 0
  · simp [has, listed, hzero]
  · have hbne : (e.2 != 0) = true := bne_iff_ne.mpr hzero
    simp [has, listed, hzero, hbne]

@[simp] theorem has_listed_entryIf (c : Bool) (n name : String) (p : ℤ) :
    has (listed (entryIf c n p)) name = (c && p != 0 && n == name) := by
  cases c <;> simp [entryIf]

end ScoreItems

open ScoreItems

/-! ## `i32` sums -/

theorem wrapI32_wrapI32_add (x y : ℤ) : wrapI32 (wrapI32 x + y) = wrapI32 (x + y) :=
  Int.bmod_add_bmod

theorem wrapI32_eq_self {x : ℤ} (h : -2 ^ 31 ≤ x) (h' : x < 2 ^ 31) : wrapI32 x = x :=
  Int.bmod_eq_of_le (by norm_num; exact h) (by norm_num; exact h')

namespace Score

variable (s : Score)

theorem addAll_append (es es' : ScoreItems) : s.addAll (es ++ es') = (s.addAll es).addAll es' :=
  List.foldl_append

theorem addIf_eq (c : Bool) (name : String) (p : ℤ) :
    s.addIf c name p = s.addAll (entryIf c name p) := by
  cases c <;> rfl

theorem addAll_items (es : ScoreItems) : (s.addAll es).items = s.items ++ listed es := by
  induction es generalizing s with
  | nil => exact (List.append_nil _).symm
  | cons e es ih =>
    rw [show s.addAll (e :: es) = (s.add e.1 e.2).addAll es from rfl, ih, add]
    by_cases hzero : e.2 = 0
    · rw [if_pos hzero, listed, listed, List.filter_cons_of_neg (by simpa using hzero)]
    · rw [if_neg hzero, listed, listed, List.filter_cons_of_pos (by simpa using hzero),
        List.append_assoc]
      rfl

/-- The total is the `i32` sum of what is listed. -/
theorem addAll_total (es : ScoreItems) (h : s.total = wrapI32 (points s.items)) :
    (s.addAll es).total = wrapI32 (points (s.addAll es).items) := by
  induction es generalizing s with
  | nil => exact h
  | cons e es ih =>
    refine ih (s.add e.1 e.2) ?_
    unfold add
    split_ifs
    · exact h
    · rw [points_append, points_cons, points_nil, add_zero]
      show wrapI32 (s.total + e.2) = _
      rw [h, wrapI32_wrapI32_add]

end Score

/-! ## The entries of the engine -/

namespace ScoreEngine

variable (cfg : ScoringConfig) (f : TokenFeatures) (t : FeatureThresholds)

def devEntries : ScoreItems :=
  let w := cfg.weights
  let strong := decide (t.devStrongMinCoins ≤ f.devTotalCoins) &&
    decide (t.devStrongMinPnlPct ≤ f.devPnlAvg)
  entryIf f.isSpamDev "spam_dev_penalty" cfg.spamDevPenalty ++
    (entryIf (f.devHasHistory && strong) "dev_history_strong" w.devHistoryStrong ++
      (entryIf (f.devHasHistory && !strong) "dev_history_weak" w.devHistoryWeak ++
        (entryIf (f.devCategory == .aPlus) "dev_ranker_a_plus" w.devRankerAPlus ++
          (entryIf (f.devCategory == .a) "dev_ranker_a" w.devRankerA ++
            entryIf (f.devCategory == .bad) "dev_ranker_bad" w.devRankerBad))))

def smartEntries : ScoreItems :=
  if t.smartWallet3plusMin ≤ f.smartWalletCount then
    [("smart_wallets_3plus", cfg.weights.smartWallets3plus)]
  else entryIf (decide (t.smartWallet1plusMin ≤ f.smartWalletCount)) "smart_wallets_1plus"
    cfg.weights.smartWallets1plus

def buyersEntries : ScoreItems :=
  let w := cfg.weights
  if t.buyersHigh ≤ f.buyerCount then [("buyers_10plus", w.buyers10plus)]
  else if t.buyersMid ≤ f.buyerCount then [("buyers_6plus", w.buyers6plus)]
  else entryIf (decide (f.buyerCount < t.buyersLow)) "buyers_below_3" w.buyersBelow3

def ratioEntries : ScoreItems :=
  entryIf (rewardsBuyToSellRatio f cfg.antiRug t.buyToSellHigh) "buy_to_sell_ratio_high"
    cfg.weights.buyToSellRatioHigh

/-- Whether the momentum is in the band of the engine in use. -/
def goodMomentum : Bool :=
  inGoodBand t (scoringMomentumPct f) &&
    !(cfg.legacyScoring && decide (t.momentumOverheatedPct ≤ scoringMomentumPct f))

def overheatedMomentum : Bool :=
  if cfg.legacyScoring then t.momentumOverheatedPct ≤ scoringMomentumPct f
  else !inGoodBand t (scoringMomentumPct f) &&
    (decide (t.momentumGoodHighPct < scoringMomentumPct f) ||
      (decide (t.momentumGoodHighPct < t.momentumOverheatedPct) &&
        decide (t.momentumOverheatedPct ≤ scoringMomentumPct f)))

def momentumEntries : ScoreItems :=
  entryIf (goodMomentum cfg f t) "momentum_good" cfg.weights.momentumGood ++
    entryIf (overheatedMomentum cfg f t) "momentum_overheated" cfg.weights.momentumOverheated

def volumeEntries : ScoreItems :=
  entryIf (decide (t.volumeOkSol ≤ f.buyVolumeSol)) "volume_ok" cfg.weights.volumeOk

/-- Only the engine before V2 asks for sizes that are the same. -/
def identicalBundle : Bool :=
  cfg.legacyScoring && decide (t.bundleIdenticalRatio ≤ f.bundle.identicalSizeRatio)

def similarBundle : Bool :=
  !identicalBundle cfg f t && decide (t.bundleSimilarRatio ≤ f.bundle.similarSizeRatio)

def bundleEntries : ScoreItems :=
  entryIf (identicalBundle cfg f t) "bundle_identical" cfg.weights.bundleIdentical ++
    entryIf (similarBundle cfg f t) "bundle_similar" cfg.weights.bundleSimilar

def persistentVelocity : Bool :=
  let ar := cfg.antiRug
  let minSlices := if ar.enabled then max ar.buyerVelocityMinSlices 2 else 1
  decide (31 / 50 ≤ f.buyerVelocityPersistence ∧ minSlices ≤ f.buyerVelocityNewPerSlice.length)

def fadingVelocity : Bool :=
  !persistentVelocity cfg f &&
    decide (f.buyerVelocityPersistence ≤ 7 / 25 ∧ 2 ≤ f.buyerVelocityNewPerSlice.length)

def velocityEntries : ScoreItems :=
  entryIf (persistentVelocity cfg f) "buyer_velocity_persistent"
      cfg.weights.buyerVelocityPersistent ++
    entryIf (fadingVelocity cfg f) "buyer_velocity_fading" cfg.weights.buyerVelocityFading

/-- The market cap has held against sells of some size. -/
def strongAbsorption : Bool :=
  let absorbMinSell := if cfg.antiRug.enabled then cfg.antiRug.absorbStrongMinSellVolSol else 1 / 20
  decide (29 / 50 ≤ f.absorbQualityScore) && decide (absorbMinSell ≤ f.sellVolumeWindowSol)

def sellEntries : ScoreItems :=
  entryIf (decide (29 / 50 ≤ f.sellPressureScore)) "sell_pressure_high"
      cfg.weights.sellPressureHigh ++
    entryIf (strongAbsorption cfg f) "absorb_strong" cfg.weights.absorbStrong

/-- The penalty for smart wallets that left: half of it, and at most two, for a single one. -/
def earlyExitPoints : ℤ :=
  if 2 ≤ f.smartWalletEarlyExits then cfg.weights.smartEarlyExitDump
  else max (cfg.weights.smartEarlyExitDump.tdiv 2) (-2)

def dumpPoints : ℤ :=
  saturatingMul cfg.weights.repeatDumpPenalty (if 2 ≤ f.repeatDumpSlices then 3 else 2)

def dumpEntries : ScoreItems :=
  entryIf (decide (1 ≤ f.smartWalletEarlyExits)) "smart_early_exit_dump" (earlyExitPoints cfg f) ++
    entryIf (decide (1 ≤ f.repeatDumpSlices)) "repeat_dump_cluster" (dumpPoints cfg f)

/-- Everything that the engine in use adds. -/
def entries : ScoreItems :=
  devEntries cfg f t ++ (smartEntries cfg f t ++ (buyersEntries cfg f t ++ (ratioEntries cfg f t ++
    (momentumEntries cfg f t ++ (volumeEntries cfg f t ++ (bundleEntries cfg f t ++
      (velocityEntries cfg f ++ (sellEntries cfg f ++ dumpEntries cfg f))))))))

/-- The thresholds of the engine in use. -/
def thresholdsInUse : FeatureThresholds := if cfg.legacyScoring then cfg.thresholds else t

section
variable (s : Score)

theorem devScores_eq : devScores cfg f t s = s.addAll (devEntries cfg f t) := by
  unfold devScores devEntries
  simp only [Score.addAll_append, ← Score.addIf_eq]
  generalize (decide (t.devStrongMinCoins ≤ f.devTotalCoins) &&
    decide (t.devStrongMinPnlPct ≤ f.devPnlAvg)) = strong
  cases f.devCategory <;> cases f.devHasHistory <;> cases strong <;> rfl

theorem addAll_smartEntries :
    s.addAll (smartEntries cfg f t) =
      if t.smartWallet3plusMin ≤ f.smartWalletCount then
        s.add "smart_wallets_3plus" cfg.weights.smartWallets3plus
      else if t.smartWallet1plusMin ≤ f.smartWalletCount then
        s.add "smart_wallets_1plus" cfg.weights.smartWallets1plus
      else s := by
  unfold smartEntries
  by_cases hthree : t.smartWallet3plusMin ≤ f.smartWalletCount
  · rw [if_pos hthree, if_pos hthree]
    rfl
  · rw [if_neg hthree, if_neg hthree, ← Score.addIf_eq]
    by_cases hone : t.smartWallet1plusMin ≤ f.smartWalletCount <;> simp [hone, Score.addIf]

theorem addAll_buyersEntries :
    s.addAll (buyersEntries cfg f t) =
      if t.buyersHigh ≤ f.buyerCount then s.add "buyers_10plus" cfg.weights.buyers10plus
      else if t.buyersMid ≤ f.buyerCount then s.add "buyers_6plus" cfg.weights.buyers6plus
      else if f.buyerCount < t.buyersLow then s.add "buyers_below_3" cfg.weights.buyersBelow3
      else s := by
  unfold buyersEntries
  by_cases hhigh : t.buyersHigh ≤ f.buyerCount
  · rw [if_pos hhigh, if_pos hhigh]
    rfl
  · by_cases hmid : t.buyersMid ≤ f.buyerCount
    · rw [if_neg hhigh, if_neg hhigh, if_pos hmid, if_pos hmid]
      rfl
    · rw [if_neg hhigh, if_neg hhigh, if_neg hmid, if_neg hmid, ← Score.addIf_eq]
      by_cases hlow : f.buyerCount < t.buyersLow <;> simp [hlow, Score.addIf]

theorem demandScores_eq :
    demandScores cfg f t s =
      ((s.addAll (smartEntries cfg f t)).addAll (buyersEntries cfg f t)).addAll
        (ratioEntries cfg f t) := by
  rw [ratioEntries, ← Score.addIf_eq, addAll_buyersEntries, addAll_smartEntries]
  rfl

theorem momentumScoresLegacy_eq (h : cfg.legacyScoring = true) :
    momentumScoresLegacy cfg f t s = s.addAll (momentumEntries cfg f t) := by
  simp only [momentumScoresLegacy, momentumEntries, goodMomentum, overheatedMomentum, h,
    Score.addAll_append, ← Score.addIf_eq]
  by_cases hhot : t.momentumOverheatedPct ≤ scoringMomentumPct f <;> simp [hhot, Score.addIf]

theorem momentumScoresV2_eq (h : cfg.legacyScoring = false) :
    momentumScoresV2 cfg f t s = s.addAll (momentumEntries cfg f t) := by
  simp only [momentumScoresV2, momentumEntries, goodMomentum, overheatedMomentum, h,
    Score.addAll_append, ← Score.addIf_eq]
  cases inGoodBand t (scoringMomentumPct f) <;> simp [Score.addIf]

theorem volumeScores_eq : volumeScores cfg f t s = s.addAll (volumeEntries cfg f t) :=
  Score.addIf_eq _ _ _ _

theorem bundleScoresLegacy_eq (h : cfg.legacyScoring = true) :
    bundleScoresLegacy cfg f t s = s.addAll (bundleEntries cfg f t) := by
  simp only [bundleScoresLegacy, bundleEntries, similarBundle, identicalBundle, h,
    Score.addAll_append, ← Score.addIf_eq]
  by_cases hsame : t.bundleIdenticalRatio ≤ f.bundle.identicalSizeRatio <;>
    simp [hsame, Score.addIf]

theorem bundleScoresV2_eq (h : cfg.legacyScoring = false) :
    bundleScoresV2 cfg f t s = s.addAll (bundleEntries cfg f t) := by
  simp only [bundleScoresV2, bundleEntries, similarBundle, identicalBundle, h,
    Score.addAll_append, ← Score.addIf_eq]
  simp [Score.addIf]

theorem addAll_velocityEntries :
    s.addAll (velocityEntries cfg f) =
      if persistentVelocity cfg f then
        s.add "buyer_velocity_persistent" cfg.weights.buyerVelocityPersistent
      else if f.buyerVelocityPersistence ≤ 7 / 25 ∧ 2 ≤ f.buyerVelocityNewPerSlice.length then
        s.add "buyer_velocity_fading" cfg.weights.buyerVelocityFading
      else s := by
  simp only [velocityEntries, fadingVelocity, Score.addAll_append, ← Score.addIf_eq]
  cases persistentVelocity cfg f <;> simp [Score.addIf]

theorem addIf_earlyExitPoints :
    s.addIf (decide (1 ≤ f.smartWalletEarlyExits)) "smart_early_exit_dump" (earlyExitPoints cfg f) =
      if 2 ≤ f.smartWalletEarlyExits then
        s.add "smart_early_exit_dump" cfg.weights.smartEarlyExitDump
      else if f.smartWalletEarlyExits = 1 then
        s.add "smart_early_exit_dump" (max (cfg.weights.smartEarlyExitDump.tdiv 2) (-2))
      else s := by
  unfold earlyExitPoints
  by_cases htwo : 2 ≤ f.smartWalletEarlyExits
  · have hone : 1 ≤ f.smartWalletEarlyExits := by omega
    simp [htwo, hone, Score.addIf]
  · by_cases hone : f.smartWalletEarlyExits = 1
    · simp [hone, Score.addIf]
    · have hzero : f.smartWalletEarlyExits = 0 := by omega
      simp [hzero, Score.addIf]

theorem addIf_dumpPoints :
    s.addIf (decide (1 ≤ f.repeatDumpSlices)) "repeat_dump_cluster" (dumpPoints cfg f) =
      if 2 ≤ f.repeatDumpSlices then
        s.add "repeat_dump_cluster" (saturatingMul cfg.weights.repeatDumpPenalty 3)
      else if 1 ≤ f.repeatDumpSlices then
        s.add "repeat_dump_cluster" (saturatingMul cfg.weights.repeatDumpPenalty 2)
      else s := by
  unfold dumpPoints
  by_cases htwo : 2 ≤ f.repeatDumpSlices
  · have hone : 1 ≤ f.repeatDumpSlices := by omega
    simp [htwo, hone, Score.addIf]
  · by_cases hone : 1 ≤ f.repeatDumpSlices <;> simp [htwo, hone, Score.addIf]

theorem applyEarlyTapeScores_eq :
    applyEarlyTapeScores cfg f s =
      ((s.addAll (velocityEntries cfg f)).addAll (sellEntries cfg f)).addAll
        (dumpEntries cfg f) := by
  simp only [sellEntries, dumpEntries, Score.addAll_append, ← Score.addIf_eq]
  rw [addIf_dumpPoints, addIf_earlyExitPoints, addAll_velocityEntries]
  simp only [persistentVelocity, decide_eq_true_eq]
  rfl

end

/-- **Both engines add their entries**, one after the other. -/
theorem score_eq_entries :
    score cfg f t =
      finishBreakdown cfg f (({} : Score).addAll (entries cfg f (thresholdsInUse cfg t))) := by
  unfold score thresholdsInUse entries
  simp only [Score.addAll_append]
  cases hpath : cfg.legacyScoring with
  | true =>
    rw [if_pos rfl, if_pos rfl, scoreLegacy, devScores_eq, demandScores_eq,
      momentumScoresLegacy_eq _ _ _ _ hpath, volumeScores_eq, bundleScoresLegacy_eq _ _ _ _ hpath,
      applyEarlyTapeScores_eq]
  | false =>
    rw [if_neg Bool.false_ne_true, if_neg Bool.false_ne_true, scoreV2, devScores_eq,
      demandScores_eq, momentumScoresV2_eq _ _ _ _ hpath, volumeScores_eq,
      bundleScoresV2_eq _ _ _ _ hpath, applyEarlyTapeScores_eq]

/-- What a score lists are the entries with points. -/
theorem score_items :
    (score cfg f t).items = listed (entries cfg f (thresholdsInUse cfg t)) := by
  rw [score_eq_entries]
  exact Score.addAll_items _ _

theorem score_total :
    (score cfg f t).total = wrapI32 (points (score cfg f t).items) := by
  rw [score_eq_entries]
  exact Score.addAll_total _ _ rfl

/-! ## Names -/

/-- The names of all items, in the order of the engine. -/
def itemNames : List String :=
  (["spam_dev_penalty"] ++ (["dev_history_strong"] ++ (["dev_history_weak"] ++
    (["dev_ranker_a_plus"] ++ (["dev_ranker_a"] ++ ["dev_ranker_bad"]))))) ++
  (["smart_wallets_3plus", "smart_wallets_1plus"] ++
  (["buyers_10plus", "buyers_6plus", "buyers_below_3"] ++
  (["buy_to_sell_ratio_high"] ++
  ((["momentum_good"] ++ ["momentum_overheated"]) ++
  (["volume_ok"] ++
  ((["bundle_identical"] ++ ["bundle_similar"]) ++
  ((["buyer_velocity_persistent"] ++ ["buyer_velocity_fading"]) ++
  ((["sell_pressure_high"] ++ ["absorb_strong"]) ++
  (["smart_early_exit_dump"] ++ ["repeat_dump_cluster"])))))))))

theorem names_smartEntries :
    ((smartEntries cfg f t).map Prod.fst).Sublist
      ["smart_wallets_3plus", "smart_wallets_1plus"] := by
  unfold smartEntries entryIf
  split_ifs <;> simp

theorem names_buyersEntries :
    ((buyersEntries cfg f t).map Prod.fst).Sublist
      ["buyers_10plus", "buyers_6plus", "buyers_below_3"] := by
  unfold buyersEntries entryIf
  split_ifs <;> simp

theorem names_entries : ((entries cfg f t).map Prod.fst).Sublist itemNames := by
  have h := names_entryIf_sublist
  simp only [entries, devEntries, ratioEntries, momentumEntries, volumeEntries, bundleEntries,
    velocityEntries, sellEntries, dumpEntries, List.map_append]
  refine .append ?_ (.append (names_smartEntries cfg f t)
    (.append (names_buyersEntries cfg f t) (.append (h _ _ _) (.append ?_ (.append (h _ _ _)
      (.append ?_ (.append ?_ (.append ?_ ?_))))))))
  · exact .append (h _ _ _) (.append (h _ _ _) (.append (h _ _ _) (.append (h _ _ _)
      (.append (h _ _ _) (h _ _ _)))))
  all_goals exact .append (h _ _ _) (h _ _ _)

/-- **No name is entered twice.** -/
theorem nodup_entries : ((entries cfg f t).map Prod.fst).Nodup :=
  (names_entries cfg f t).nodup (by decide)

end ScoreEngine

end Loggaper
