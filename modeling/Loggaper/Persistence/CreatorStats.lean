import Loggaper.Lib.ReadThrough
import Loggaper.Pipeline.Admission

/-!
# The statistics of the creators

The statistics of a developer are computed by one expensive query and kept for three minutes. A
launch is judged by what is served. The query fails at any stage without a trace in the cache.

Main result: `creatorStats_recent`, how old the statistics can be that a launch is judged by.
-/

namespace Loggaper

/-- The row of the query. -/
structure CreatorRow where
  medianMarketCap : ℚ
  traderPnlAverage : ℚ
  totalHoldersAverage : ℚ
  averageVolume : ℚ
  medianTotalTrades : ℚ
  averageUniqueBuyToSellRatio : ℚ
  averageBuyTraderSize : ℚ
  totalCoins : ℕ

/-- `None` for a developer without coins. -/
def CreatorRow.stats (row : CreatorRow) : Option CreatorHistory :=
  if row.totalCoins = 0 then none
  else some {
    medianMarketCapSol := (Amount.fromFloatNative row.medianMarketCap).toFloat
    traderPnlAverage := row.traderPnlAverage
    totalHoldersAverage := roundU64 row.totalHoldersAverage
    averageVolume := row.averageVolume
    medianTotalTrades := roundU64 row.medianTotalTrades
    averageUniqueBuyToSellRatio := row.averageUniqueBuyToSellRatio
    averageBuyTraderSizeSol := (Amount.fromFloatNative row.averageBuyTraderSize).toFloat
    totalCoins := row.totalCoins }

/-- `CREATOR_STATS_TTL`, in milliseconds. -/
def creatorStatsTtlMs : ℕ := 180_000

def creatorStatsCacheMax : ℕ := 50_000

/-- `get_creator_stats_in_sol` by any number of callers, under a changing database. -/
def creatorStats : Machine (Reading String CreatorRow (Option CreatorHistory))
    (ReadEvent String CreatorRow) :=
  readThrough CreatorRow.stats creatorStatsTtlMs creatorStatsCacheMax

/-- **Recent statistics.** When no call takes longer than `d` milliseconds from the query's answer
to its return, what a call is served was in the database less than three minutes and `d`
milliseconds before. The cache never holds more than 50 000 developers. -/
theorem creatorStats_recent {s u : Reading String CreatorRow (Option CreatorHistory)}
    {es : List (ReadEvent String CreatorRow)} {d : ℕ} (hs : creatorStats.init s)
    (h : creatorStats.Path (Reading.Prompt d) s es u) :
    u.cache.size ≤ 50_000 ∧ ∀ dev stats t, .served dev stats t ∈ u.history →
      ∃ before after m, es = before ++ after ∧ creatorStats.run s before = some m ∧
        (m.store dev).stats = stats ∧ m.now ≤ t ∧ t < m.now + d + 180_000 := by
  refine ⟨Reading.size_of_path hs h, fun dev stats t hserved => ?_⟩
  obtain ⟨r, ⟨before, after, m, hes, hrun, hstats, rfl⟩, hle, hlt⟩ :=
    Reading.recent_of_path (by decide) hs h hserved
  exact ⟨before, after, m, hes, hrun, hstats, hle, hlt⟩

/-- A developer without coins, and one with two. -/
def noCoins : CreatorRow := ⟨0, 0, 0, 0, 0, 0, 0, 0⟩

def twoCoins : CreatorRow := ⟨30, 5, 12, 40, 25, 2, 1 / 2, 2⟩

/-- Two calls load before and after a new coin, and the older answer comes back last. -/
def overtaken : List (ReadEvent String CreatorRow) :=
  [.call "dev", .answer 0, .write "dev" twoCoins, .call "dev", .answer 1, .finish 1, .tick 20,
    .finish 0, .tick 179_999, .call "dev"]

def noneRead : Reading String CreatorRow (Option CreatorHistory) := ⟨0, fun _ => noCoins, ∅, [], []⟩

/-- The last call is served what the database held before the coin, three minutes earlier. -/
theorem creatorStats_recent_overtaken : ∃ before after m, overtaken = before ++ after ∧
    creatorStats.run noneRead before = some m ∧ (m.store "dev").stats = none ∧
      m.now ≤ 180_019 ∧ 180_019 < m.now + 20 + 180_000 := by
  obtain ⟨u, hrun, hserved⟩ : ∃ u,
      creatorStats.runUnder (Reading.Prompt 20) noneRead overtaken = some u ∧
        .served "dev" none 180_019 ∈ u.history :=
    ⟨_, rfl, List.mem_of_getElem? (i := 4) rfl⟩
  exact (creatorStats_recent ⟨rfl, rfl, rfl⟩ (.of_runUnder hrun)).2 "dev" none 180_019 hserved

end Loggaper
