import Loggaper.Scoring.Config
import Loggaper.Scoring.DevRanker
import Loggaper.Scoring.Features

/-!
# The feature vector of a token

What the score engine and the gates read: the developer's record, the market cap over the scoring
window, the early buyers and the tape derived from its samples.
-/

namespace Loggaper

inductive DevCategory
  | aPlus | a | neutral | bad | stale | fresh
  deriving DecidableEq, Repr

structure BundleStats where
  similarSizeRatio : ℚ
  identicalSizeRatio : ℚ
  medianSizeSol : ℚ
  maxSizeSol : ℚ

def BundleStats.empty : BundleStats := ⟨0, 0, 0, 0⟩

/-- The sizes are sums of one wallet each, so equal ones come from several wallets. -/
def computeBundleStats (buySizesSol : List ℚ) (similarTolerance : ℚ) : BundleStats :=
  let sizes := buySizesSol.filter (0 < ·)
  if sizes.length < 3 then .empty
  else
    let sorted := sizes.insertionSort (· ≤ ·)
    let median := sorted.getD (sorted.length / 2) 0
    let similarCount :=
      if 0 < median then
        sorted.countP fun s =>
          median * (1 - similarTolerance) ≤ s ∧ s ≤ median * (1 + similarTolerance)
      else 0
    -- equal up to a thousandth of a SOL, rounded and cut to an `i64`
    let keys := sorted.map fun s => min ⌊s * 1000 + 1 / 2⌋ (2 ^ 63 - 1)
    let identicalCount := (keys.map fun k => keys.count k).foldl max 0
    { similarSizeRatio := similarCount / sorted.length
      identicalSizeRatio := identicalCount / sorted.length
      medianSizeSol := median
      maxSizeSol := sorted.getLast?.getD 0 }

/-- The history of a creator, as far as scoring reads it. -/
structure CreatorStatistics where
  traderPnlAverage : ℚ
  totalHoldersAverage : ℕ
  averageVolume : ℚ
  medianTotalTrades : ℕ
  averageUniqueBuyToSellRatio : ℚ
  totalCoins : ℕ

/-! ## The derived tape -/

structure ScoringTapeDerived where
  buyerVelocityNewPerSlice : List ℕ := []
  buyerVelocityPersistence : ℚ := 0
  sellPressureScore : ℚ := 0
  absorbQualityScore : ℚ := 0
  sellEventsWindow : ℕ := 0
  sellVolumeWindowSol : ℚ := 0
  repeatDumpSlices : ℕ := 0
  smartWalletEarlyExits : ℕ := 0

def buyerPersistenceFromDeltas (d : List ℕ) : ℚ :=
  match d with
  | [] => 1 / 2
  | [x] => if 0 < x then 31 / 50 else 21 / 50
  | _ =>
    let windows := d.zip d.tail
    if windows.all fun w => w.1 < w.2 then 1
    else if windows.all fun w => w.1 ≤ w.2 + 1 then 18 / 25
    else if windows.all fun w => w.2 < w.1 then 1 / 20
    else 19 / 50

namespace ScoringTapeDerived

/-- The weighted absorption of one slice; slices without sells count nothing. -/
def absorbSlice (acc : ℚ × ℚ) (w : EarlyTapePoint × EarlyTapePoint) : ℚ × ℚ :=
  let dSol := lamportsToSol (w.2.cumSellRaw - w.1.cumSellRaw)
  if dSol < 1 / 10 ^ 9 then acc
  else
    let ratio := (w.2.mcapSol - w.1.mcapSol) / dSol
    let weight := min dSol 2
    (acc.1 + ratio * weight, acc.2 + weight)

/-- A slice with several sells and a good part of the market cap sold. -/
def dumpSlice (w : EarlyTapePoint × EarlyTapePoint) : Bool :=
  let dSol := lamportsToSol (w.2.cumSellRaw - w.1.cumSellRaw)
  let mMid := (w.2.mcapSol + w.1.mcapSol) * (1 / 2)
  2 ≤ w.2.cumSellEvents - w.1.cumSellEvents && mMid * (1 / 125) < dSol

/-- `tanh` is the float function; only its values enter here. -/
def fromTapePoints (tanh : ℚ → ℚ) (points : List EarlyTapePoint) (smartWalletEarlyExits : ℕ) :
    ScoringTapeDerived :=
  match points with
  | [] => {}
  | first :: rest =>
    let last := (first :: rest).getLast (List.cons_ne_nil _ _)
    let windows := points.zip points.tail
    let newPerSlice := windows.map fun w => w.2.buyerCount - w.1.buyerCount
    let sellVolSol := lamportsToSol (last.cumSellRaw - first.cumSellRaw)
    let mcapRef := max last.mcapSol 1
    let absorb := windows.foldl absorbSlice (0, 0)
    let absorbRaw := if 0 < absorb.2 then absorb.1 / absorb.2 else 0
    { buyerVelocityNewPerSlice := newPerSlice
      buyerVelocityPersistence := buyerPersistenceFromDeltas newPerSlice
      sellPressureScore := max 0 (min (min (sellVolSol / mcapRef) 3 / 3) 1)
      absorbQualityScore := max 0 (min ((tanh absorbRaw + 1) * (1 / 2)) 1)
      sellEventsWindow := last.cumSellEvents - first.cumSellEvents
      sellVolumeWindowSol := sellVolSol
      repeatDumpSlices := windows.countP dumpSlice % 2 ^ 32
      smartWalletEarlyExits := smartWalletEarlyExits }

end ScoringTapeDerived

/-! ## Features -/

structure TokenFeatures where
  mint : Address
  dev : Address
  devHasHistory : Bool
  devTotalCoins : ℕ
  devPnlAvg : ℚ
  devHoldersAvg : ℕ
  devVolumeAvg : ℚ
  devTradesAvg : ℕ
  devBuyToSellRatio : ℚ
  devCategory : DevCategory
  devRankScore : ℚ
  devRankRecord : DevRecord
  /-- A serial launcher, whose history was not asked for. -/
  isSpamDev : Bool
  currentMcapSol : ℚ
  initialMcapSol : ℚ
  /-- The largest market cap among the samples of the scoring window. -/
  peakMcapSol : ℚ
  buyers : EarlyBuyersSnapshot
  regularBuyerCount : ℕ
  sniperCount : ℕ
  buyVolumeSol : ℚ
  stillLongCount : ℕ
  alreadySoldCount : ℕ
  buyToSellRatio : ℚ
  bundle : BundleStats
  smartWalletCount : ℕ
  buyerVelocityNewPerSlice : List ℕ
  /-- 0 for a strong decay, 1 for a strictly increasing cadence. -/
  buyerVelocityPersistence : ℚ
  sellPressureScore : ℚ
  absorbQualityScore : ℚ
  sellEventsWindow : ℕ
  sellVolumeWindowSol : ℚ
  repeatDumpSlices : ℕ
  smartWalletEarlyExits : ℕ

def TokenFeatures.buyerCount (f : TokenFeatures) : ℕ :=
  (f.regularBuyerCount + f.sniperCount) % 2 ^ 64

/-- Growth of the market cap from the start of the window to its peak, in percent. -/
def momentumPeakPct (initialMcapSol peakMcapSol : ℚ) : ℚ :=
  if 0 < initialMcapSol then (peakMcapSol / initialMcapSol - 1) * 100 else 0

/-- Build the feature vector. The caller sets `isSpamDev`. -/
def assemble (mint dev : Address) (devStats : Option CreatorStatistics)
    (devCategory : DevCategory) (devRankRecord : DevRecord)
    (initialMcapSol currentMcapSol peakMcapSol : ℚ) (buyers : EarlyBuyersSnapshot)
    (regularBuyerCount sniperCount : ℕ) (buyVolumeSol : ℚ)
    (stillLongCount alreadySoldCount : ℕ) (bundle : BundleStats) (smartWalletCount : ℕ)
    (tape : ScoringTapeDerived) : TokenFeatures where
  mint := mint
  dev := dev
  devHasHistory := devStats.isSome
  devTotalCoins := devStats.elim 0 (·.totalCoins)
  devPnlAvg := devStats.elim 0 (·.traderPnlAverage)
  devHoldersAvg := devStats.elim 0 (·.totalHoldersAverage)
  devVolumeAvg := devStats.elim 0 (·.averageVolume)
  devTradesAvg := devStats.elim 0 (·.medianTotalTrades)
  devBuyToSellRatio := devStats.elim 0 (·.averageUniqueBuyToSellRatio)
  devCategory := devCategory
  devRankScore := devRankRecord.score
  devRankRecord := devRankRecord
  isSpamDev := false
  currentMcapSol := currentMcapSol
  initialMcapSol := initialMcapSol
  peakMcapSol := peakMcapSol
  buyers := buyers
  regularBuyerCount := regularBuyerCount
  sniperCount := sniperCount
  buyVolumeSol := buyVolumeSol
  stillLongCount := stillLongCount
  alreadySoldCount := alreadySoldCount
  buyToSellRatio :=
    if alreadySoldCount = 0 then stillLongCount else stillLongCount / alreadySoldCount
  bundle := bundle
  smartWalletCount := smartWalletCount
  buyerVelocityNewPerSlice := tape.buyerVelocityNewPerSlice
  buyerVelocityPersistence := tape.buyerVelocityPersistence
  sellPressureScore := tape.sellPressureScore
  absorbQualityScore := tape.absorbQualityScore
  sellEventsWindow := tape.sellEventsWindow
  sellVolumeWindowSol := tape.sellVolumeWindowSol
  repeatDumpSlices := tape.repeatDumpSlices
  smartWalletEarlyExits := tape.smartWalletEarlyExits

end Loggaper
