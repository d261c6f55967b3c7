import Loggaper.Lib.Median
import Mathlib.Algebra.Order.Round
import Mathlib.Data.List.MinMax
import Mathlib.Data.Rat.Floor
import Mathlib.Tactic.Linarith
import Mathlib.Tactic.NormNum

/-!
# The chart of a token

The dashboard's chart has points, the market caps of a token over time, and a pair of markers for
each trade of the bot. The points come from a tape of market caps in unix seconds or, where there is
none, from the trades of the token by slot, as seconds since the first one. The bot's trades are in
unix seconds, and the oldest ones lack the entry time.

- `chartAligned_iff`: the markers are on the points' axis exactly when the chart has the tape and
  the trade its entry time.
-/

namespace Loggaper

/-- A time and a market cap. -/
abbrev Sample := ℤ × ℚ

/-! ## Market caps -/

def chartMcapAbsMax : ℚ := 200000

def chartMcapValid (mcap : ℚ) : Bool := 0 < mcap && mcap ≤ chartMcapAbsMax

def chartTapeMedian (mcaps : List ℚ) : Option ℚ := Median.upper (mcaps.filter chartMcapValid)

def chartMcapMatchesTape (mcap : ℚ) (median : Option ℚ) : Bool :=
  if !chartMcapValid mcap then false
  else
    match median with
    | none => true
    | some med => if med ≤ 0 then true else med * (1 / 50) ≤ mcap && mcap ≤ med * 50

/-! ## Times -/

/-- Show bonding-curve context before the entry. -/
def chartPreSecs : ℤ := 300

def chartPostSecs : ℤ := 120

/-- Max chart span from the first sample. -/
def chartMaxSpanSecs : ℤ := 3600

def chartIsUnixSecs (t : ℤ) : Bool := 10 ^ 9 ≤ t

/-- There are about 2.5 slots in a second. -/
def chartSlotToSec (slot slot0 : ℤ) : ℤ := max (round (((slot - slot0 : ℤ) : ℚ) / (5 / 2))) 0

/-- The time of the sample with the nearest market cap, the first one of several. -/
def chartInferSlotByMcap (target : ℚ) (series : List Sample) : ℤ :=
  match (series.filter fun p => chartMcapValid p.2).argmin fun p => |p.2 - target| with
  | some p => p.1
  | none => (series.head?.map Prod.fst).getD 0

/-- Marker times on the same axis as the chart's points. -/
def chartNormalizeMarkerSecs (entryAt closedAt : ℤ) (entryMcap exitMcap : ℚ)
    (series : List Sample) (slot0 : ℤ) (timelineUnix : Bool) : ℤ × ℤ :=
  let entryUnix := 0 < entryAt && chartIsUnixSecs entryAt
  let closeUnix := 0 < closedAt && chartIsUnixSecs closedAt
  if timelineUnix && entryUnix && closeUnix && entryAt ≤ closedAt then (entryAt, closedAt)
  else
    let exitSec := chartSlotToSec (chartInferSlotByMcap exitMcap series) slot0
    let entrySec :=
      if 0 < entryAt && !entryUnix then chartSlotToSec entryAt slot0
      else if entryUnix then entryAt
      else chartSlotToSec (chartInferSlotByMcap entryMcap series) slot0
    let closedSec :=
      if 0 < closedAt && !closeUnix then chartSlotToSec closedAt slot0
      else if closeUnix then closedAt
      else max exitSec entrySec
    (entrySec, closedSec)

/-- A sample of the last one's time takes its place. -/
def pushSample (out : List Sample) (p : Sample) : List Sample :=
  match out.getLast? with
  | some last => if last.1 = p.1 then out.dropLast ++ [p] else out ++ [p]
  | none => [p]

def chartDedupPoints (points : List Sample) : List Sample :=
  (points.insertionSort fun p q => p.1 ≤ q.1).foldl pushSample []

def chartTradeWindowBounds (markerTimes : List (ℤ × ℤ)) (points : List Sample) : ℤ × ℤ :=
  if markerTimes ≠ [] then
    let entryMin := (markerTimes.map Prod.fst).min?.getD 0
    let exitMax := (markerTimes.map Prod.snd).max?.getD entryMin
    (entryMin - chartPreSecs, exitMax + chartPostSecs)
  else
    match points.head?, points.getLast? with
    | some lo, some hi =>
      if chartMaxSpanSecs < hi.1 - lo.1 then (lo.1 - chartPreSecs, lo.1 + chartMaxSpanSecs)
      else (lo.1 - chartPreSecs, hi.1 + 60)
    | _, _ => (0, chartPostSecs)

/-! ## The handler -/

/-- A trade of the bot. The times are in unix seconds; an entry time that was not recorded is 0. -/
structure BotTradeMarkerRow where
  entryAt : ℤ
  closedAt : ℤ
  entryMcapSol : ℚ
  exitMcapSol : ℚ
  realizedPnlPct : ℚ
  closeReason : String

structure ChartMarker where
  entryAt : ℤ
  closedAt : ℤ
  entryMcap : ℚ
  exitMcap : ℚ
  pnl : ℚ
  reason : String
  deriving DecidableEq

structure ChartResponse where
  t0 : ℤ
  points : List Sample
  markers : List ChartMarker

/-- What the handler has read of a token, each list in the order of its times. -/
structure ChartRows where
  /-- Market caps in unix seconds. -/
  tape : List Sample
  /-- Market caps of the trades, by slot. -/
  trades : List Sample
  botTrades : List BotTradeMarkerRow

namespace ChartRows

variable (rows : ChartRows)

def useUnixTape : Bool := !rows.tape.isEmpty

/-- The samples with a valid market cap; of a slot the last one. -/
def validSeries : List Sample :=
  if rows.useUnixTape then rows.tape.filter fun p => chartMcapValid p.2
  else (rows.trades.filter fun p => chartMcapValid p.2).foldl pushSample []

def median : Option ℚ := chartTapeMedian (rows.validSeries.map Prod.snd)

def series : List Sample := rows.validSeries.filter fun p => chartMcapMatchesTape p.2 rows.median

def slot0 : ℤ := if rows.useUnixTape then 0 else (rows.series.head?.map Prod.fst).getD 0

/-- The points before the window is cut out. -/
def points : List Sample :=
  if rows.useUnixTape then chartDedupPoints rows.series
  else chartDedupPoints (rows.series.map fun p => (chartSlotToSec p.1 rows.slot0, p.2))

def seriesForMarkers : List Sample := if rows.useUnixTape then rows.points else rows.series

/-- Trades far from the tape are not charted. -/
def charts (m : BotTradeMarkerRow) : Bool :=
  chartMcapMatchesTape m.entryMcapSol rows.median && chartMcapMatchesTape m.exitMcapSol rows.median

def markerTimes (m : BotTradeMarkerRow) : ℤ × ℤ :=
  chartNormalizeMarkerSecs m.entryAt m.closedAt m.entryMcapSol m.exitMcapSol
    rows.seriesForMarkers rows.slot0 rows.useUnixTape

def marker (m : BotTradeMarkerRow) : Option ChartMarker :=
  if !rows.charts m then none
  else if (rows.markerTimes m).2 < (rows.markerTimes m).1 then none
  else some
    { entryAt := (rows.markerTimes m).1
      closedAt := (rows.markerTimes m).2
      entryMcap := m.entryMcapSol
      exitMcap := m.exitMcapSol
      pnl := m.realizedPnlPct
      reason := m.closeReason }

/-- The markers before they are cut to the window. -/
def markers : List ChartMarker := rows.botTrades.filterMap rows.marker

def window : ℤ × ℤ :=
  chartTradeWindowBounds (rows.markers.map fun k => (k.entryAt, k.closedAt)) rows.points

/-- The time that is 0 on the chart. -/
def entryBase : ℤ := (rows.markers.map (·.entryAt)).min?.getD rows.window.1

/-- A time cut to the window. -/
def clamp (t : ℤ) : ℤ := max rows.window.1 (min t rows.window.2)

/-- The marker as it is sent. -/
def placed (k : ChartMarker) : ChartMarker :=
  { k with
    entryAt := rows.clamp k.entryAt - rows.entryBase
    closedAt := rows.clamp k.closedAt - rows.entryBase }

/-- The answer of `get_chart`. -/
def getChart : ChartResponse where
  t0 := 0
  points := (rows.points.filter fun p => rows.window.1 ≤ p.1 && p.1 ≤ rows.window.2).map
    fun p => (p.1 - rows.entryBase, p.2)
  markers := rows.markers.map rows.placed

/-! ## The axis -/

/-- The trade was made at these unix seconds, and recorded so or without its entry time. -/
structure ExecutedAt (m : BotTradeMarkerRow) (entry close : ℤ) : Prop where
  unix : chartIsUnixSecs entry = true
  order : entry ≤ close
  entry_at : m.entryAt = entry ∨ m.entryAt = 0
  closed_at : m.closedAt = close

/-- The unix seconds of the first and the last point. A slot's are its block's, `clock`. -/
def firstAndLast (clock : ℤ → ℤ) : Option (ℤ × ℤ) :=
  let seconds := if rows.useUnixTape then rows.points.map Prod.fst
    else rows.series.map fun p => clock p.1
  seconds.head?.bind fun first => seconds.getLast?.map fun last => (first, last)

/-- The trade was made between the first and the last point. -/
def ExecutedBetween (clock : ℤ → ℤ) (m : BotTradeMarkerRow) : Prop :=
  ∃ ends ∈ rows.firstAndLast clock, ∃ entry close,
    ExecutedAt m entry close ∧ ends.1 ≤ entry ∧ close ≤ ends.2

/-- On the chart both markers of the trade are between the first and the last point, and the points
around them are kept. -/
def MarkersBetween (m : BotTradeMarkerRow) : Prop :=
  ∃ k, rows.marker m = some k ∧
    (∃ first ∈ rows.points.head?, ∃ last ∈ rows.points.getLast?,
      first.1 - rows.entryBase ≤ (rows.placed k).entryAt ∧
        (rows.placed k).entryAt ≤ (rows.placed k).closedAt ∧
        (rows.placed k).closedAt ≤ last.1 - rows.entryBase) ∧
    ∀ p ∈ rows.points, (rows.placed k).entryAt - chartPreSecs ≤ p.1 - rows.entryBase →
      p.1 - rows.entryBase ≤ (rows.placed k).closedAt + chartPostSecs →
      (p.1 - rows.entryBase, p.2) ∈ rows.getChart.points

/-- At this place a point of these unix seconds would be. -/
def Shows (clock : ℤ → ℤ) (t seconds : ℤ) : Prop :=
  if rows.useUnixTape then t = seconds - rows.entryBase
  else ∃ slot, clock slot = seconds ∧ t = chartSlotToSec slot rows.slot0 - rows.entryBase

/-- Both markers of the trade are where points of its times would be. -/
def MarkersShown (clock : ℤ → ℤ) (m : BotTradeMarkerRow) : Prop :=
  ∃ k, rows.marker m = some k ∧ ∃ entry close, ExecutedAt m entry close ∧
    rows.Shows clock (rows.placed k).entryAt entry ∧
    rows.Shows clock (rows.placed k).closedAt close

/-- The markers of every charted trade are on the points' axis, and where the trade was made between
the points they are between them. -/
def ChartAligned (clock : ℤ → ℤ) : Prop :=
  rows.points ≠ [] → ∀ m ∈ rows.botTrades, rows.charts m = true →
    (∃ entry close, ExecutedAt m entry close) →
      rows.MarkersShown clock m ∧ (rows.ExecutedBetween clock m → rows.MarkersBetween m)

/-- The points are in unix seconds, and so are both times of the charted trades. -/
def TimesShared : Prop :=
  rows.points ≠ [] → ∀ m ∈ rows.botTrades, rows.charts m = true →
    (∃ entry close, ExecutedAt m entry close) → rows.useUnixTape = true ∧ m.entryAt ≠ 0

/-- The tape's seconds are before the year 2046, and from a slot of the token's trades to one in
which the bot has closed a trade there are fewer than two for each unix second of the latter. -/
structure Plausible (clock : ℤ → ℤ) : Prop where
  tape : ∀ p ∈ rows.tape, p.1 ≤ 24 * 10 ^ 8
  slots : ∀ p ∈ rows.trades, ∀ m ∈ rows.botTrades, ∀ slot, clock slot = m.closedAt →
    slot - p.1 ≤ 2 * m.closedAt

end ChartRows

/-! ## Where the times come from -/

theorem mem_foldl_pushSample {ls out : List Sample} {p : Sample}
    (h : p ∈ ls.foldl pushSample out) : p ∈ out ∨ p ∈ ls := by
  induction ls generalizing out with
  | nil => exact .inl h
  | cons q ls ih =>
    rcases ih h with hpushed | hrest
    · have hmem : p ∈ out ∨ p = q := by
        unfold pushSample at hpushed
        split at hpushed
        · split_ifs at hpushed
          · rcases List.mem_append.mp hpushed with hkept | hnew
            · exact .inl ((List.dropLast_sublist _).subset hkept)
            · exact .inr (List.mem_singleton.mp hnew)
          · rcases List.mem_append.mp hpushed with hkept | hnew
            · exact .inl hkept
            · exact .inr (List.mem_singleton.mp hnew)
        · exact .inr (List.mem_singleton.mp hpushed)
      rcases hmem with hout | rfl
      · exact .inl hout
      · exact .inr List.mem_cons_self
    · exact .inr (List.mem_cons_of_mem _ hrest)

theorem mem_of_mem_chartDedupPoints {ls : List Sample} {p : Sample}
    (h : p ∈ chartDedupPoints ls) : p ∈ ls := by
  rcases mem_foldl_pushSample h with hnil | hsorted
  · exact absurd hnil List.not_mem_nil
  · exact (List.mem_insertionSort _).mp hsorted

/-- The nearest sample is one of them. -/
theorem exists_mem_chartInferSlot {series : List Sample} (hne : series ≠ []) (target : ℚ) :
    ∃ p ∈ series, chartInferSlotByMcap target series = p.1 := by
  unfold chartInferSlotByMcap
  split
  · rename_i p hp
    exact ⟨p, List.mem_of_mem_filter (List.argmin_mem hp), rfl⟩
  · obtain ⟨p, rest, rfl⟩ := List.exists_cons_of_ne_nil hne
    exact ⟨p, List.mem_cons_self, rfl⟩

/-- Slots count faster than seconds. -/
theorem chartSlotToSec_lt {slot slot0 bound : ℤ} (hbound : 0 < bound)
    (h : 4 * (slot - slot0) + 5 < 10 * bound) : chartSlotToSec slot slot0 < bound := by
  have hslots : 4 * ((slot - slot0 : ℤ) : ℚ) + 5 < 10 * bound := by exact_mod_cast h
  refine max_lt ?_ hbound
  rw [round_eq, Int.floor_lt]
  linarith

theorem min?_getD_le {l : List ℤ} {a : ℤ} (h : a ∈ l) (d : ℤ) : l.min?.getD d ≤ a := by
  cases hmin : l.min? with
  | none => exact absurd (List.min?_eq_none_iff.mp hmin) (List.ne_nil_of_mem h)
  | some m => exact (List.min?_eq_some_iff.mp hmin).2 a h

theorem le_max?_getD {l : List ℤ} {a : ℤ} (h : a ∈ l) (d : ℤ) : a ≤ l.max?.getD d := by
  cases hmax : l.max? with
  | none => exact absurd (List.max?_eq_none_iff.mp hmax) (List.ne_nil_of_mem h)
  | some m => exact (List.max?_eq_some_iff.mp hmax).2 a h

theorem chartTradeWindowBounds_around {times : List (ℤ × ℤ)} {t : ℤ × ℤ} (h : t ∈ times)
    (points : List Sample) :
    (chartTradeWindowBounds times points).1 ≤ t.1 - chartPreSecs ∧
      t.2 + chartPostSecs ≤ (chartTradeWindowBounds times points).2 := by
  have hentry := min?_getD_le (List.mem_map_of_mem (f := Prod.fst) h) 0
  have hclose := le_max?_getD (List.mem_map_of_mem (f := Prod.snd) h)
    ((times.map Prod.fst).min?.getD 0)
  rw [chartTradeWindowBounds, if_pos (List.ne_nil_of_mem h)]
  exact ⟨Int.sub_le_sub_right hentry _, Int.add_le_add_right hclose _⟩

namespace ChartRows

variable {rows : ChartRows}

theorem mem_of_mem_series_unix (hunix : rows.useUnixTape = true) {p : Sample}
    (h : p ∈ rows.series) : p ∈ rows.tape := by
  have hvalid := List.mem_of_mem_filter h
  rw [validSeries, if_pos hunix] at hvalid
  exact List.mem_of_mem_filter hvalid

theorem mem_of_mem_series_slots (hslots : rows.useUnixTape = false) {p : Sample}
    (h : p ∈ rows.series) : p ∈ rows.trades := by
  have hvalid := List.mem_of_mem_filter h
  rw [validSeries, if_neg (by simp [hslots])] at hvalid
  rcases mem_foldl_pushSample hvalid with hnil | hmem
  · exact absurd hnil List.not_mem_nil
  · exact List.mem_of_mem_filter hmem

theorem mem_of_mem_points_unix (hunix : rows.useUnixTape = true) {p : Sample}
    (h : p ∈ rows.points) : p ∈ rows.tape := by
  rw [points, if_pos hunix] at h
  exact mem_of_mem_series_unix hunix (mem_of_mem_chartDedupPoints h)

/-- By slot the points are counted from a sample of the trades. -/
theorem exists_slot0 (hslots : rows.useUnixTape = false) (hpoints : rows.points ≠ []) :
    ∃ p ∈ rows.trades, rows.slot0 = p.1 := by
  obtain ⟨point, hpoint⟩ := List.exists_mem_of_ne_nil _ hpoints
  rw [points, if_neg (by simp [hslots])] at hpoint
  obtain ⟨q, hq, -⟩ := List.mem_map.mp (mem_of_mem_chartDedupPoints hpoint)
  obtain ⟨first, rest, hseries⟩ := List.exists_cons_of_ne_nil (List.ne_nil_of_mem hq)
  refine ⟨first, mem_of_mem_series_slots hslots (hseries ▸ List.mem_cons_self), ?_⟩
  rw [slot0, if_neg (by simp [hslots]), hseries]
  rfl

/-! ## The window -/

theorem entry_le_close {k : ChartMarker} (h : k ∈ rows.markers) : k.entryAt ≤ k.closedAt := by
  obtain ⟨m, -, hm⟩ := List.mem_filterMap.mp h
  unfold marker at hm
  split_ifs at hm with hcharts horder
  rw [← Option.some.inj hm]
  exact not_lt.mp horder

/-- The window holds every marker, and what is around it. -/
theorem window_around {k : ChartMarker} (h : k ∈ rows.markers) :
    rows.window.1 ≤ k.entryAt - chartPreSecs ∧ k.closedAt + chartPostSecs ≤ rows.window.2 :=
  chartTradeWindowBounds_around (List.mem_map_of_mem h) rows.points

/-- No marker is cut. -/
theorem clamp_marker {k : ChartMarker} (h : k ∈ rows.markers) :
    rows.clamp k.entryAt = k.entryAt ∧ rows.clamp k.closedAt = k.closedAt := by
  obtain ⟨hlo, hhi⟩ := window_around h
  have horder := entry_le_close h
  unfold clamp chartPreSecs chartPostSecs at *
  omega

theorem mem_markers {m : BotTradeMarkerRow} {k : ChartMarker} (hm : m ∈ rows.botTrades)
    (hk : rows.marker m = some k) : k ∈ rows.markers :=
  List.mem_filterMap.mpr ⟨m, hm, hk⟩

/-- A marker that is sent is at the trade's times. -/
theorem placed_marker {m : BotTradeMarkerRow} {k : ChartMarker} (hm : m ∈ rows.botTrades)
    (hk : rows.marker m = some k) :
    (rows.placed k).entryAt = (rows.markerTimes m).1 - rows.entryBase ∧
      (rows.placed k).closedAt = (rows.markerTimes m).2 - rows.entryBase := by
  obtain ⟨hentry, hclose⟩ := clamp_marker (mem_markers hm hk)
  rw [placed, hentry, hclose]
  unfold marker at hk
  split_ifs at hk
  rw [← Option.some.inj hk]
  exact ⟨rfl, rfl⟩

/-- A charted trade whose times are in order has a marker. -/
theorem exists_marker {m : BotTradeMarkerRow} (hcharts : rows.charts m = true)
    (horder : (rows.markerTimes m).1 ≤ (rows.markerTimes m).2) : ∃ k, rows.marker m = some k := by
  rw [marker, hcharts, if_neg (by simp), if_neg (not_lt.mpr horder)]
  exact ⟨_, rfl⟩

/-- The markers of a trade lie between the points when its times do. -/
theorem markersBetween_of_times {m : BotTradeMarkerRow} (hm : m ∈ rows.botTrades)
    (hcharts : rows.charts m = true) {first last : Sample} (hfirst : first ∈ rows.points.head?)
    (hlast : last ∈ rows.points.getLast?) (hentry : first.1 ≤ (rows.markerTimes m).1)
    (horder : (rows.markerTimes m).1 ≤ (rows.markerTimes m).2)
    (hclose : (rows.markerTimes m).2 ≤ last.1) : rows.MarkersBetween m := by
  obtain ⟨k, hk⟩ := exists_marker hcharts horder
  obtain ⟨hentryAt, hclosedAt⟩ := placed_marker hm hk
  obtain ⟨hlo, hhi⟩ := window_around (mem_markers hm hk)
  obtain ⟨hclampEntry, hclampClose⟩ := clamp_marker (mem_markers hm hk)
  refine ⟨k, hk, ⟨first, hfirst, last, hlast, ?_⟩, ?_⟩
  · rw [hentryAt, hclosedAt]
    omega
  · intro p hp hpre hpost
    simp only [placed, hclampEntry, hclampClose] at hpre hpost
    refine List.mem_map.mpr ⟨p, List.mem_filter.mpr ⟨hp, ?_⟩, rfl⟩
    simp only [Bool.and_eq_true, decide_eq_true_eq]
    omega

/-! ## The times of a trade's markers -/

section
variable {m : BotTradeMarkerRow} {entry close : ℤ}

theorem ExecutedAt.close_unix (h : ExecutedAt m entry close) :
    chartIsUnixSecs m.closedAt = true ∧ 0 < m.closedAt := by
  have hunix := h.unix
  have horder := h.order
  rw [h.closed_at]
  simp only [chartIsUnixSecs, decide_eq_true_eq] at hunix ⊢
  omega

/-- On the tape a recorded trade keeps its times. -/
theorem markerTimes_recorded (hunix : rows.useUnixTape = true) (h : ExecutedAt m entry close)
    (hrecorded : m.entryAt ≠ 0) : rows.markerTimes m = (entry, close) := by
  obtain ⟨hclose, hclosePos⟩ := h.close_unix
  have hentry : m.entryAt = entry := h.entry_at.resolve_right hrecorded
  have hunixEntry := h.unix
  have hentryPos : 0 < m.entryAt := by
    simp only [chartIsUnixSecs, decide_eq_true_eq] at hunixEntry
    omega
  have horder : m.entryAt ≤ m.closedAt := by
    rw [hentry, h.closed_at]
    exact h.order
  rw [← hentry] at hunixEntry
  rw [markerTimes, chartNormalizeMarkerSecs, ← hentry, ← h.closed_at]
  simp [hunix, hunixEntry, hclose, hentryPos, hclosePos, horder]

/-- By slot a trade still closes in unix seconds. -/
theorem markerTimes_slots (hslots : rows.useUnixTape = false) (h : ExecutedAt m entry close) :
    (rows.markerTimes m).2 = close := by
  obtain ⟨hclose, hclosePos⟩ := h.close_unix
  rw [markerTimes, chartNormalizeMarkerSecs, ← h.closed_at]
  simp [hslots, hclose, hclosePos]

/-- Without an entry time the tape's unix seconds are taken for slots. -/
theorem markerTimes_unrecorded (hunix : rows.useUnixTape = true) (hzero : m.entryAt = 0) :
    (rows.markerTimes m).1 =
      chartSlotToSec (chartInferSlotByMcap m.entryMcapSol rows.points) 0 := by
  rw [markerTimes, chartNormalizeMarkerSecs, seriesForMarkers, slot0, hzero]
  simp [hunix]

theorem exists_of_mem_firstAndLast {clock : ℤ → ℤ} {ends : ℤ × ℤ}
    (hunix : rows.useUnixTape = true) (h : ends ∈ rows.firstAndLast clock) :
    ∃ first ∈ rows.points.head?, ∃ last ∈ rows.points.getLast?, ends = (first.1, last.1) := by
  simp only [firstAndLast, hunix, if_true, List.head?_map, List.getLast?_map, Option.mem_def,
    Option.bind_eq_some_iff, Option.map_eq_some_iff] at h
  obtain ⟨_, ⟨first, hfirst, rfl⟩, _, ⟨last, hlast, rfl⟩, rfl⟩ := h
  exact ⟨first, hfirst, last, hlast, rfl⟩

end

/-- **On the same axis.** -/
theorem aligned_of_timesShared {clock : ℤ → ℤ} (h : rows.TimesShared) :
    rows.ChartAligned clock := by
  intro hpoints m hm hcharts hmade
  obtain ⟨hunix, hrecorded⟩ := h hpoints m hm hcharts hmade
  constructor
  · obtain ⟨entry, close, hexec⟩ := hmade
    have htimes := markerTimes_recorded hunix hexec hrecorded
    obtain ⟨k, hk⟩ := exists_marker hcharts (by rw [htimes]; exact hexec.order)
    obtain ⟨hentryAt, hclosedAt⟩ := placed_marker hm hk
    rw [htimes] at hentryAt hclosedAt
    refine ⟨k, hk, entry, close, hexec, ?_, ?_⟩
    · rwa [Shows, if_pos hunix]
    · rwa [Shows, if_pos hunix]
  · rintro ⟨ends, hends, entry, close, hexec, hlo, hhi⟩
    obtain ⟨first, hfirst, last, hlast, rfl⟩ := exists_of_mem_firstAndLast hunix hends
    have htimes := markerTimes_recorded hunix hexec hrecorded
    refine markersBetween_of_times hm hcharts hfirst hlast ?_ ?_ ?_ <;> rw [htimes]
    · exact hlo
    · exact hexec.order
    · exact hhi

/-- By slot the marker of a close in unix seconds is where no point could be. -/
theorem not_shows_slots {clock : ℤ → ℤ} (hrows : rows.Plausible clock) {m : BotTradeMarkerRow}
    (hm : m ∈ rows.botTrades) (hpoints : rows.points ≠ []) (hslots : rows.useUnixTape = false)
    {entry close : ℤ} (hexec : ExecutedAt m entry close) :
    ¬ rows.Shows clock (close - rows.entryBase) close := by
  rw [Shows, if_neg (by simp [hslots])]
  rintro ⟨slot, hclock, hplace⟩
  obtain ⟨p, hp, hslot0⟩ := exists_slot0 hslots hpoints
  have hcount := hrows.slots p hp m hm slot (hclock.trans hexec.closed_at.symm)
  have hunix := hexec.unix
  have horder := hexec.order
  simp only [chartIsUnixSecs, decide_eq_true_eq] at hunix
  rw [hexec.closed_at] at hcount
  rw [hslot0] at hplace
  have hbefore : chartSlotToSec slot p.1 < close := chartSlotToSec_lt (by omega) (by omega)
  omega

/-- **On different axes** otherwise. -/
theorem timesShared_of_aligned {clock : ℤ → ℤ} (hrows : rows.Plausible clock)
    (h : rows.ChartAligned clock) : rows.TimesShared := by
  intro hpoints m hm hcharts hmade
  obtain ⟨⟨k, hk, entry, close, hexec, hentry, hclose⟩, -⟩ := h hpoints m hm hcharts hmade
  obtain ⟨hentryAt, hclosedAt⟩ := placed_marker hm hk
  cases hunix : rows.useUnixTape with
  | false =>
    rw [hclosedAt, markerTimes_slots hunix hexec] at hclose
    exact absurd hclose (not_shows_slots hrows hm hpoints hunix hexec)
  | true =>
    refine ⟨rfl, fun hzero => ?_⟩
    -- the nearest sample's unix seconds, taken for a slot, are before any trade
    obtain ⟨p, hp, hnearest⟩ := exists_mem_chartInferSlot hpoints m.entryMcapSol
    have hlate := hrows.tape p (mem_of_mem_points_unix hunix hp)
    have hentryUnix := hexec.unix
    simp only [chartIsUnixSecs, decide_eq_true_eq] at hentryUnix
    have hbefore : chartSlotToSec p.1 0 < 10 ^ 9 := chartSlotToSec_lt (by norm_num) (by omega)
    rw [hentryAt, markerTimes_unrecorded hunix hzero, hnearest, Shows, if_pos hunix] at hentry
    omega

/-- The markers are on the points' axis exactly when the trades' times are. -/
theorem chartAligned_iff (rows : ChartRows) (clock : ℤ → ℤ) :
    (rows.TimesShared → rows.ChartAligned clock) ∧
      (rows.Plausible clock → rows.ChartAligned clock → rows.TimesShared) :=
  ⟨aligned_of_timesShared, timesShared_of_aligned⟩

/-- A trade that doubled in fifty seconds. -/
def doubled (entryAt : ℤ) : BotTradeMarkerRow where
  entryAt := entryAt
  closedAt := 1700000060
  entryMcapSol := 30
  exitMcapSol := 60
  realizedPnlPct := 100
  closeReason := "tp"

/-- A chart by slot. -/
def slotRows : ChartRows where
  tape := []
  trades := [(300000000, 30), (300000250, 60)]
  botTrades := [doubled 1700000010]

/-- A chart with the tape, and a trade whose entry time was not recorded. -/
def tapeRows : ChartRows where
  tape := [(1700000000, 30), (1700000100, 60)]
  trades := []
  botTrades := [doubled 0]

/-- The unix seconds of a slot's block. -/
def blockTime (slot : ℤ) : ℤ := 1700000000 + (slot - 300000000) * 2 / 5

/-- Either way the markers of a trade between the points are elsewhere. -/
theorem doubled_off_axis :
    ¬ slotRows.ChartAligned blockTime ∧ ¬ tapeRows.ChartAligned blockTime := by
  have hslotRows : slotRows.Plausible blockTime := by
    refine ⟨nofun, ?_⟩
    intro p hp m hm slot hclock
    obtain rfl := List.mem_singleton.mp hm
    have hp : 300000000 ≤ p.1 := by
      revert p
      decide
    simp only [blockTime, doubled] at hclock ⊢
    omega
  have htapeRows : tapeRows.Plausible blockTime := ⟨by decide, nofun⟩
  constructor
  · intro h
    have hmade : ∃ entry close, ExecutedAt (doubled 1700000010) entry close :=
      ⟨1700000010, 1700000060, by decide, by decide, .inl rfl, rfl⟩
    have hshared := timesShared_of_aligned hslotRows h (by decide +kernel) (doubled 1700000010)
      List.mem_cons_self (by decide +kernel) hmade
    exact absurd hshared.1 (by decide)
  · intro h
    have hmade : ∃ entry close, ExecutedAt (doubled 0) entry close :=
      ⟨1700000010, 1700000060, by decide, by decide, .inr rfl, rfl⟩
    have hshared := timesShared_of_aligned htapeRows h (by decide +kernel) (doubled 0)
      List.mem_cons_self (by decide +kernel) hmade
    exact hshared.2 rfl

end ChartRows

end Loggaper
