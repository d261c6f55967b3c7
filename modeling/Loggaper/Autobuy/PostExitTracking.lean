import Loggaper.Helper
import Loggaper.Lib.Extremes
import Mathlib.Algebra.Order.Ring.Unbundled.Rat
import Mathlib.Data.Rat.Floor
import Mathlib.Tactic.Linarith

/-!
# After the exit

For half an hour after a full close the market cap is sampled at fixed times: from the bonding
curve, or from Jupiter when the curve has no answer. A sample that is not there is skipped. What is
stored with the trade is the sample of each time, the extremes with their times, and each of these
in percent of the exit.

Main result: `postExit_faithful`, what is stored and when it was sampled, whatever the answers and
however long they take.
-/

namespace Loggaper

open Extremes

/-- Seconds after the close. -/
def postExitCheckpointSecs : List ℕ := [10, 30, 50, 70, 100, 180, 240, 300, 600, 900, 1800]

def pctFromExit (exitMcapSol : ℚ) (mcap : Option ℚ) : Option ℚ := do
  let m ← mcap
  if exitMcapSol > 0 ∧ m > 0 then some ((m / exitMcapSol - 1) * 100) else none

/-! ## The samples -/

structure PostExitSampleState where
  mcap10s : Option ℚ := none
  mcap30s : Option ℚ := none
  mcap50s : Option ℚ := none
  mcap70s : Option ℚ := none
  mcap100s : Option ℚ := none
  mcap180s : Option ℚ := none
  mcap240s : Option ℚ := none
  mcap300s : Option ℚ := none
  mcap10m : Option ℚ := none
  mcap15m : Option ℚ := none
  mcap30m : Option ℚ := none
  maxMcap : Option ℚ := none
  minMcap : Option ℚ := none
  timeToMaxSecs : Option ℕ := none
  timeToMinSecs : Option ℕ := none

namespace PostExitSampleState

variable (s : PostExitSampleState)

def updateMax (elapsedSecs : ℕ) (mcap : ℚ) : PostExitSampleState :=
  match s.maxMcap with
  | none => { s with maxMcap := some mcap, timeToMaxSecs := some elapsedSecs }
  | some prev =>
    if mcap > prev then { s with maxMcap := some mcap, timeToMaxSecs := some elapsedSecs } else s

def updateMin (elapsedSecs : ℕ) (mcap : ℚ) : PostExitSampleState :=
  match s.minMcap with
  | none => { s with minMcap := some mcap, timeToMinSecs := some elapsedSecs }
  | some prev =>
    if mcap < prev then { s with minMcap := some mcap, timeToMinSecs := some elapsedSecs } else s

def updateExtrema (elapsedSecs : ℕ) (mcap : ℚ) : PostExitSampleState :=
  (s.updateMax elapsedSecs mcap).updateMin elapsedSecs mcap

/-- The extremes begin with the exit itself. -/
def recordExitBaseline (exitMcapSol : ℚ) : PostExitSampleState :=
  if exitMcapSol > 0 then s.updateExtrema 0 exitMcapSol else s

/-- The field of a checkpoint. -/
def setMcap (checkpointSecs : ℕ) (mcap : ℚ) : PostExitSampleState :=
  match checkpointSecs with
  | 10 => { s with mcap10s := some mcap }
  | 30 => { s with mcap30s := some mcap }
  | 50 => { s with mcap50s := some mcap }
  | 70 => { s with mcap70s := some mcap }
  | 100 => { s with mcap100s := some mcap }
  | 180 => { s with mcap180s := some mcap }
  | 240 => { s with mcap240s := some mcap }
  | 300 => { s with mcap300s := some mcap }
  | 600 => { s with mcap10m := some mcap }
  | 900 => { s with mcap15m := some mcap }
  | 1800 => { s with mcap30m := some mcap }
  | _ => s

def setCheckpoint (checkpointSecs : ℕ) (mcap : ℚ) : PostExitSampleState :=
  if mcap ≤ 0 then s else (s.updateExtrema checkpointSecs mcap).setMcap checkpointSecs mcap

end PostExitSampleState

/-! ## What is stored -/

structure PostExitMetrics where
  mcap10s : Option ℚ
  mcap30s : Option ℚ
  mcap50s : Option ℚ
  mcap70s : Option ℚ
  mcap100s : Option ℚ
  mcap180s : Option ℚ
  mcap240s : Option ℚ
  mcap300s : Option ℚ
  /-- The sample of 300 seconds, under an older name. -/
  mcap5m : Option ℚ
  mcap10m : Option ℚ
  mcap15m : Option ℚ
  mcap30m : Option ℚ
  maxMcap : Option ℚ
  minMcap : Option ℚ
  timeToMaxSecs : Option ℤ
  timeToMinSecs : Option ℤ
  pct10s : Option ℚ
  pct30s : Option ℚ
  pct50s : Option ℚ
  pct70s : Option ℚ
  pct100s : Option ℚ
  pct180s : Option ℚ
  pct240s : Option ℚ
  pct300s : Option ℚ
  pct5m : Option ℚ
  pct10m : Option ℚ
  pct15m : Option ℚ
  pct30m : Option ℚ
  maxPct : Option ℚ
  minPct : Option ℚ

/-- `i64::try_from(secs).unwrap_or(i64::MAX)`. -/
def secsAsI64 (secs : ℕ) : ℤ := min secs (2 ^ 63 - 1)

def PostExitMetrics.fromSamples (exitMcapSol : ℚ) (samples : PostExitSampleState) :
    PostExitMetrics where
  mcap10s := samples.mcap10s
  mcap30s := samples.mcap30s
  mcap50s := samples.mcap50s
  mcap70s := samples.mcap70s
  mcap100s := samples.mcap100s
  mcap180s := samples.mcap180s
  mcap240s := samples.mcap240s
  mcap300s := samples.mcap300s
  mcap5m := samples.mcap300s
  mcap10m := samples.mcap10m
  mcap15m := samples.mcap15m
  mcap30m := samples.mcap30m
  maxMcap := samples.maxMcap
  minMcap := samples.minMcap
  timeToMaxSecs := samples.timeToMaxSecs.map secsAsI64
  timeToMinSecs := samples.timeToMinSecs.map secsAsI64
  pct10s := pctFromExit exitMcapSol samples.mcap10s
  pct30s := pctFromExit exitMcapSol samples.mcap30s
  pct50s := pctFromExit exitMcapSol samples.mcap50s
  pct70s := pctFromExit exitMcapSol samples.mcap70s
  pct100s := pctFromExit exitMcapSol samples.mcap100s
  pct180s := pctFromExit exitMcapSol samples.mcap180s
  pct240s := pctFromExit exitMcapSol samples.mcap240s
  pct300s := pctFromExit exitMcapSol samples.mcap300s
  pct5m := pctFromExit exitMcapSol samples.mcap300s
  pct10m := pctFromExit exitMcapSol samples.mcap10m
  pct15m := pctFromExit exitMcapSol samples.mcap15m
  pct30m := pctFromExit exitMcapSol samples.mcap30m
  maxPct := pctFromExit exitMcapSol samples.maxMcap
  minPct := pctFromExit exitMcapSol samples.minMcap

/-! ## The task -/

/-- What the two sources answer at a checkpoint, how long that takes, and how late the timer is. -/
structure PostExitProbe where
  bonding : Option ℚ
  jupiter : Option ℚ
  tookMs : ℕ
  lateMs : ℕ

inductive PostExitMcapSource
  | bonding | jupiter
  deriving DecidableEq

/-- The curve first. -/
def samplePostExitMcap (p : PostExitProbe) : Option (ℚ × PostExitMcapSource) :=
  match p.bonding with
  | some mcap => some (mcap, .bonding)
  | none => p.jupiter.map (·, .jupiter)

/-- When a sample was asked for and when its answer had come, in milliseconds after the close. -/
structure SampleTime where
  checkpointSecs : ℕ
  askedMs : ℕ
  doneMs : ℕ
  deriving DecidableEq

/-- When `sleep_until` is over: `elapsed` is in whole seconds, and a timer never fires early. -/
def sleepUntil (elapsedMs targetSecs lateMs : ℕ) : ℕ :=
  if targetSecs > elapsedMs / 1000 then
    elapsedMs + (targetSecs - elapsedMs / 1000) * 1000 + lateMs
  else elapsedMs

def sampleAt (probe : ℕ → PostExitProbe) (samples : PostExitSampleState) (checkpointSecs : ℕ) :
    PostExitSampleState :=
  match samplePostExitMcap (probe checkpointSecs) with
  | some (mcap, _) => samples.setCheckpoint checkpointSecs mcap
  | none => samples

/-- When each checkpoint is sampled. -/
def sampleTimes (probe : ℕ → PostExitProbe) : ℕ → List ℕ → List SampleTime
  | _, [] => []
  | elapsedMs, checkpoint :: rest =>
    let askedMs := sleepUntil elapsedMs checkpoint (probe checkpoint).lateMs
    let doneMs := askedMs + (probe checkpoint).tookMs
    ⟨checkpoint, askedMs, doneMs⟩ :: sampleTimes probe doneMs rest

/-- What the task stores. -/
def spawnPostExitTracking (exitMcapSol : ℚ) (probe : ℕ → PostExitProbe) : PostExitMetrics :=
  .fromSamples exitMcapSol
    (postExitCheckpointSecs.foldl (sampleAt probe)
      (PostExitSampleState.recordExitBaseline {} exitMcapSol))

/-! ## One sample -/

/-- The answer at a checkpoint, when it counts. -/
def validSample (probe : ℕ → PostExitProbe) (checkpointSecs : ℕ) : Option ℚ :=
  ((samplePostExitMcap (probe checkpointSecs)).map Prod.fst).filter (0 < ·)

/-- The fields of the state, each with its checkpoint. -/
def PostExitSampleState.fields (s : PostExitSampleState) : List (ℕ × Option ℚ) :=
  [(10, s.mcap10s), (30, s.mcap30s), (50, s.mcap50s), (70, s.mcap70s), (100, s.mcap100s),
    (180, s.mcap180s), (240, s.mcap240s), (300, s.mcap300s), (600, s.mcap10m), (900, s.mcap15m),
    (1800, s.mcap30m)]

/-- The state's extremes and their times are the first of the best of these samples. -/
structure PostExitSampleState.Tracks (s : PostExitSampleState) (samples : List (ℕ × ℚ)) : Prop where
  maxMcap : s.maxMcap = (first (· > ·) samples).map Prod.snd
  timeToMax : s.timeToMaxSecs = (first (· > ·) samples).map Prod.fst
  minMcap : s.minMcap = (first (· < ·) samples).map Prod.snd
  timeToMin : s.timeToMinSecs = (first (· < ·) samples).map Prod.fst

namespace PostExitSampleState

variable {s : PostExitSampleState} {samples : List (ℕ × ℚ)} {t : ℕ} {m : ℚ}

theorem updateMax_eq {best : Option (ℕ × ℚ)} (hmax : s.maxMcap = best.map Prod.snd)
    (htime : s.timeToMaxSecs = best.map Prod.fst) :
    s.updateMax t m =
      { s with
        maxMcap := (keep (· > ·) best (t, m)).map Prod.snd
        timeToMaxSecs := (keep (· > ·) best (t, m)).map Prod.fst } := by
  rw [updateMax, hmax]
  cases best with
  | none => rfl
  | some b =>
    by_cases hb : m > b.2
    · simp [keep, hb]
    · simp only [Option.map_some, keep, hb, if_false]
      rw [← Option.map_some, ← Option.map_some, ← hmax, ← htime]

theorem updateMin_eq {best : Option (ℕ × ℚ)} (hmin : s.minMcap = best.map Prod.snd)
    (htime : s.timeToMinSecs = best.map Prod.fst) :
    s.updateMin t m =
      { s with
        minMcap := (keep (· < ·) best (t, m)).map Prod.snd
        timeToMinSecs := (keep (· < ·) best (t, m)).map Prod.fst } := by
  rw [updateMin, hmin]
  cases best with
  | none => rfl
  | some b =>
    by_cases hb : m < b.2
    · simp [keep, hb]
    · simp only [Option.map_some, keep, hb, if_false]
      rw [← Option.map_some, ← Option.map_some, ← hmin, ← htime]

theorem Tracks.updateExtrema (h : s.Tracks samples) :
    (s.updateExtrema t m).Tracks (samples ++ [(t, m)]) := by
  have hmax := updateMax_eq (t := t) (m := m) h.maxMcap h.timeToMax
  have hmin : (s.updateMax t m).minMcap = (first (· < ·) samples).map Prod.snd := by
    rw [hmax, h.minMcap]
  have htime : (s.updateMax t m).timeToMinSecs = (first (· < ·) samples).map Prod.fst := by
    rw [hmax, h.timeToMin]
  rw [PostExitSampleState.updateExtrema, updateMin_eq hmin htime, hmax]
  constructor <;> rw [first_concat]

theorem tracks_setMcap : (s.setMcap t m).Tracks samples ↔ s.Tracks samples := by
  unfold setMcap
  split <;> exact ⟨fun h => ⟨h.1, h.2, h.3, h.4⟩, fun h => ⟨h.1, h.2, h.3, h.4⟩⟩

theorem fields_updateExtrema : (s.updateExtrema t m).fields = s.fields := by
  unfold updateExtrema updateMin updateMax
  repeat' split
  all_goals rfl

theorem fields_setMcap :
    (s.setMcap t m).fields =
      s.fields.map fun f => (f.1, if f.1 = t then some m else f.2) := by
  unfold setMcap
  split
  case h_12 => simp_all [fields, eq_comm]
  all_goals rfl

end PostExitSampleState

section Run

variable {probe : ℕ → PostExitProbe} {s : PostExitSampleState} {samples : List (ℕ × ℚ)}

theorem sampleAt_eq (secs : ℕ) :
    sampleAt probe s secs =
      match validSample probe secs with
      | some mcap => (s.updateExtrema secs mcap).setMcap secs mcap
      | none => s := by
  unfold sampleAt validSample
  rcases samplePostExitMcap (probe secs) with _ | ⟨mcap, source⟩
  · rfl
  · by_cases hpos : 0 < mcap
    · simp [PostExitSampleState.setCheckpoint, Option.filter_some, hpos, not_le.mpr hpos]
    · simp [PostExitSampleState.setCheckpoint, Option.filter_some, hpos, not_lt.mp hpos]

/-- What the samples at these checkpoints leave in the fields. -/
theorem fields_run (checkpoints : List ℕ) (s : PostExitSampleState) :
    (checkpoints.foldl (sampleAt probe) s).fields =
      s.fields.map fun f =>
        (f.1, if f.1 ∈ checkpoints then (validSample probe f.1).or f.2 else f.2) := by
  induction checkpoints generalizing s with
  | nil => simp
  | cons c rest ih =>
    have hstep : (sampleAt probe s c).fields =
        s.fields.map fun f => (f.1, if f.1 = c then (validSample probe c).or f.2 else f.2) := by
      rw [sampleAt_eq]
      cases validSample probe c with
      | none => simp
      | some mcap => simp [PostExitSampleState.fields_setMcap,
          PostExitSampleState.fields_updateExtrema]
    rw [List.foldl_cons, ih, hstep, List.map_map]
    refine List.map_congr_left fun f _ => ?_
    by_cases hf : f.1 = c <;> by_cases hrest : c ∈ rest <;> grind

theorem tracks_run (probe : ℕ → PostExitProbe) (checkpoints : List ℕ)
    {s : PostExitSampleState} (h : s.Tracks samples) :
    (checkpoints.foldl (sampleAt probe) s).Tracks
      (samples ++ checkpoints.filterMap fun c => (validSample probe c).map (c, ·)) := by
  induction checkpoints generalizing s samples with
  | nil => simpa using h
  | cons c rest ih =>
    rw [List.foldl_cons, sampleAt_eq]
    cases hc : validSample probe c with
    | none => simpa [hc] using ih h
    | some mcap =>
      simpa [hc] using ih (PostExitSampleState.tracks_setMcap.mpr h.updateExtrema)

end Run

/-! ## The whole task -/

/-- The samples the extremes are taken over: the exit, then every answer that counts. -/
def exitSamples (exitMcapSol : ℚ) (probe : ℕ → PostExitProbe) : List (ℕ × ℚ) :=
  (if exitMcapSol > 0 then [(0, exitMcapSol)] else []) ++
    postExitCheckpointSecs.filterMap fun c => (validSample probe c).map (c, ·)

/-- The columns of a checkpoint: the market cap and its percentage. -/
def PostExitMetrics.columns (m : PostExitMetrics) : List (ℕ × Option ℚ × Option ℚ) :=
  [(10, m.mcap10s, m.pct10s), (30, m.mcap30s, m.pct30s), (50, m.mcap50s, m.pct50s),
    (70, m.mcap70s, m.pct70s), (100, m.mcap100s, m.pct100s), (180, m.mcap180s, m.pct180s),
    (240, m.mcap240s, m.pct240s), (300, m.mcap300s, m.pct300s), (300, m.mcap5m, m.pct5m),
    (600, m.mcap10m, m.pct10m), (900, m.mcap15m, m.pct15m), (1800, m.mcap30m, m.pct30m)]

/-- A column pair holds the first of the best samples with its time, and nothing when there is no
sample. -/
def HoldsFirst (r : ℚ → ℚ → Prop) (samples : List (ℕ × ℚ)) (mcap : Option ℚ) (secs : Option ℤ) :
    Prop :=
  (samples = [] ∧ mcap = none ∧ secs = none) ∨
    ∃ p, IsFirst r samples p ∧ mcap = some p.2 ∧ secs = some (p.1 : ℤ)

section Whole

variable {exitMcapSol : ℚ} {probe : ℕ → PostExitProbe}

theorem checkpoint_lt {p : ℕ × ℚ} (h : p ∈ exitSamples exitMcapSol probe) : p.1 ≤ 1800 := by
  simp only [exitSamples, postExitCheckpointSecs, List.mem_append, List.mem_filterMap,
    Option.map_eq_some_iff] at h
  rcases h with h | ⟨c, hc, m, -, rfl⟩
  · grind
  · simp only [List.mem_cons, List.not_mem_nil, or_false] at hc
    simp only
    omega

theorem sample_pos {p : ℕ × ℚ} (h : p ∈ exitSamples exitMcapSol probe) : 0 < p.2 := by
  simp only [exitSamples, List.mem_append, List.mem_filterMap, Option.map_eq_some_iff] at h
  rcases h with h | ⟨c, -, m, hm, rfl⟩
  · grind
  · simpa using (Option.filter_eq_some_iff.mp hm).2

theorem tracks_baseline (exitMcapSol : ℚ) :
    (PostExitSampleState.recordExitBaseline {} exitMcapSol).Tracks
      (if exitMcapSol > 0 then [(0, exitMcapSol)] else []) := by
  have hstart : (({} : PostExitSampleState)).Tracks [] := ⟨rfl, rfl, rfl, rfl⟩
  unfold PostExitSampleState.recordExitBaseline
  split
  · exact hstart.updateExtrema
  · exact hstart

theorem holdsFirst_of {r : ℚ → ℚ → Prop} [DecidableRel r] [IsStrictTotalOrder ℚ r] :
    HoldsFirst r (exitSamples exitMcapSol probe)
      ((first r (exitSamples exitMcapSol probe)).map Prod.snd)
      (((first r (exitSamples exitMcapSol probe)).map Prod.fst).map secsAsI64) := by
  rcases first_spec (r := r) (exitSamples exitMcapSol probe) with ⟨hnil, hnone⟩ | ⟨p, hp, hfirst⟩
  · exact .inl ⟨hnil, by rw [hnone]; exact ⟨rfl, rfl⟩⟩
  · refine .inr ⟨p, hfirst, by rw [hp]; rfl, ?_⟩
    have hle := checkpoint_lt hfirst.mem
    rw [hp]
    simp only [Option.map_some, secsAsI64]
    congr 1
    omega

theorem mem_columns {samples : PostExitSampleState} {col : ℕ × Option ℚ × Option ℚ}
    (h : col ∈ (PostExitMetrics.fromSamples exitMcapSol samples).columns) :
    (col.1, col.2.1) ∈ samples.fields ∧ col.2.2 = pctFromExit exitMcapSol col.2.1 := by
  simp only [PostExitMetrics.columns, List.mem_cons, List.not_mem_nil, or_false] at h
  rcases h with rfl | rfl | rfl | rfl | rfl | rfl | rfl | rfl | rfl | rfl | rfl | rfl <;>
    simp [PostExitSampleState.fields, PostExitMetrics.fromSamples]

theorem baseline_fields {f : ℕ × Option ℚ}
    (h : f ∈ (PostExitSampleState.recordExitBaseline {} exitMcapSol).fields) :
    f.1 ∈ postExitCheckpointSecs ∧ f.2 = none := by
  have hstart : (PostExitSampleState.recordExitBaseline {} exitMcapSol).fields =
      postExitCheckpointSecs.map (·, none) := by
    unfold PostExitSampleState.recordExitBaseline
    split
    · rw [PostExitSampleState.fields_updateExtrema]
      rfl
    · rfl
  rw [hstart] at h
  obtain ⟨c, hc, rfl⟩ := List.mem_map.mp h
  exact ⟨hc, rfl⟩

/-- Every stored sample is the answer of its checkpoint. -/
theorem column_eq {col : ℕ × Option ℚ × Option ℚ}
    (h : col ∈ (spawnPostExitTracking exitMcapSol probe).columns) :
    col.1 ∈ postExitCheckpointSecs ∧ col.2.1 = validSample probe col.1 ∧
      col.2.2 = pctFromExit exitMcapSol col.2.1 := by
  obtain ⟨hfield, hpct⟩ := mem_columns h
  rw [fields_run] at hfield
  obtain ⟨f, hf, heq⟩ := List.mem_map.mp hfield
  obtain ⟨hmem, hnone⟩ := baseline_fields hf
  rw [if_pos hmem, hnone, Option.or_none, Prod.mk.injEq] at heq
  obtain ⟨hfst, hsnd⟩ := heq
  rw [hfst] at hmem hsnd
  exact ⟨hmem, hsnd.symm, hpct⟩

theorem maxMin_eq (exitMcapSol : ℚ) (probe : ℕ → PostExitProbe) :
    HoldsFirst (· > ·) (exitSamples exitMcapSol probe)
        (spawnPostExitTracking exitMcapSol probe).maxMcap
        (spawnPostExitTracking exitMcapSol probe).timeToMaxSecs ∧
      HoldsFirst (· < ·) (exitSamples exitMcapSol probe)
        (spawnPostExitTracking exitMcapSol probe).minMcap
        (spawnPostExitTracking exitMcapSol probe).timeToMinSecs := by
  have h := tracks_run probe postExitCheckpointSecs (tracks_baseline exitMcapSol)
  simp only [spawnPostExitTracking, PostExitMetrics.fromSamples, h.maxMcap, h.timeToMax, h.minMcap,
    h.timeToMin]
  exact ⟨holdsFirst_of, holdsFirst_of⟩

theorem pctFromExit_mono {exit a b x y : ℚ} (hexit : 0 < exit) (hab : a ≤ b)
    (ha : pctFromExit exit (some a) = some x) (hb : pctFromExit exit (some b) = some y) :
    x ≤ y := by
  simp only [pctFromExit, Option.bind_eq_bind, Option.bind_some, Option.ite_none_right_eq_some,
    Option.some.injEq] at ha hb
  obtain ⟨-, rfl⟩ := ha
  obtain ⟨-, rfl⟩ := hb
  have := div_le_div_of_nonneg_right hab hexit.le
  linarith

theorem pctFromExit_pos {exit m : ℚ} (hexit : 0 < exit) (hm : 0 < m) :
    pctFromExit exit (some m) = some ((m / exit - 1) * 100) := by
  simp [pctFromExit, hexit, hm]

/-- Between its extremes, which lie on either side of the exit. -/
theorem pct_between (hexit : 0 < exitMcapSol) :
    ∃ lo hi, (spawnPostExitTracking exitMcapSol probe).minPct = some lo ∧
      (spawnPostExitTracking exitMcapSol probe).maxPct = some hi ∧ lo ≤ 0 ∧ 0 ≤ hi ∧
      ∀ col ∈ (spawnPostExitTracking exitMcapSol probe).columns, ∀ pct, col.2.2 = some pct →
        lo ≤ pct ∧ pct ≤ hi := by
  have hbase : (0, exitMcapSol) ∈ exitSamples exitMcapSol probe := by
    simp [exitSamples, hexit]
  obtain ⟨hmax, hmin⟩ := maxMin_eq exitMcapSol probe
  rcases hmax with ⟨hnil, -⟩ | ⟨p, hp, hpmcap, -⟩
  · exact absurd hbase (by simp [hnil])
  rcases hmin with ⟨hnil, -⟩ | ⟨q, hq, hqmcap, -⟩
  · exact absurd hbase (by simp [hnil])
  have hhigh : ∀ v ∈ exitSamples exitMcapSol probe, v.2 ≤ p.2 := fun v hv => by
    have : ¬ v.2 > p.2 := not_rel_of_isFirst hp hv
    exact not_lt.mp this
  have hlow : ∀ v ∈ exitSamples exitMcapSol probe, q.2 ≤ v.2 := fun v hv =>
    not_lt.mp (not_rel_of_isFirst hq hv)
  have hhi := pctFromExit_pos hexit (sample_pos hp.mem)
  have hlo := pctFromExit_pos hexit (sample_pos hq.mem)
  have hzero : pctFromExit exitMcapSol (some exitMcapSol) = some 0 := by
    rw [pctFromExit_pos hexit hexit, div_self hexit.ne', sub_self, zero_mul]
  refine ⟨_, _, ?_, ?_, pctFromExit_mono hexit (hlow _ hbase) hlo hzero,
    pctFromExit_mono hexit (hhigh _ hbase) hzero hhi, fun col hcol pct hpct => ?_⟩
  · exact (congrArg (pctFromExit exitMcapSol) hqmcap).trans hlo
  · exact (congrArg (pctFromExit exitMcapSol) hpmcap).trans hhi
  · obtain ⟨hc, hvalid, hcolumn⟩ := column_eq hcol
    rw [hcolumn, hvalid] at hpct
    cases hv : validSample probe col.1 with
    | none => rw [hv] at hpct; cases hpct
    | some v =>
      have hmem : (col.1, v) ∈ exitSamples exitMcapSol probe :=
        List.mem_append_right _ (List.mem_filterMap.mpr ⟨col.1, hc, by rw [hv]; rfl⟩)
      rw [hv] at hpct
      exact ⟨pctFromExit_mono hexit (hlow _ hmem) hlo hpct,
        pctFromExit_mono hexit (hhigh _ hmem) hpct hhi⟩

end Whole

/-- Not before its time; within the second of its time, unless the sample before it ended later. -/
def OnTime (probe : ℕ → PostExitProbe) (before t : SampleTime) : Prop :=
  t.checkpointSecs * 1000 ≤ t.askedMs ∧
    (t.askedMs < (t.checkpointSecs + 1) * 1000 + (probe t.checkpointSecs).lateMs ∨
      t.askedMs = before.doneMs)

theorem onTime_chain (probe : ℕ → PostExitProbe) (checkpoints : List ℕ) (before : SampleTime) :
    (before :: sampleTimes probe before.doneMs checkpoints).IsChain (OnTime probe) := by
  induction checkpoints generalizing before with
  | nil => exact List.isChain_singleton _
  | cons c rest ih =>
    rw [sampleTimes, List.isChain_cons_cons]
    refine ⟨?_, ih ⟨c, _, _⟩⟩
    simp only [OnTime, sleepUntil]
    split <;> omega

/-- **Post-exit tracking is faithful.** Whatever the two sources answer, however long that takes and
however late the timers are: every column of a checkpoint holds the answer of that checkpoint (and
the 300 second one is stored twice), or nothing when there was none; the extremes and their times
are the first best among the exit and the answers; the percentages lie between the extremes', which
are on either side of zero; and a checkpoint is sampled within the second of its time, or as soon as
the sample before it has ended. -/
theorem postExit_faithful (exitMcapSol : ℚ) (probe : ℕ → PostExitProbe) :
    (∀ col ∈ (spawnPostExitTracking exitMcapSol probe).columns,
      col.2.1 = validSample probe col.1 ∧ col.2.2 = pctFromExit exitMcapSol col.2.1) ∧
    (HoldsFirst (· > ·) (exitSamples exitMcapSol probe)
        (spawnPostExitTracking exitMcapSol probe).maxMcap
        (spawnPostExitTracking exitMcapSol probe).timeToMaxSecs ∧
      HoldsFirst (· < ·) (exitSamples exitMcapSol probe)
        (spawnPostExitTracking exitMcapSol probe).minMcap
        (spawnPostExitTracking exitMcapSol probe).timeToMinSecs) ∧
    (0 < exitMcapSol → ∃ lo hi, (spawnPostExitTracking exitMcapSol probe).minPct = some lo ∧
      (spawnPostExitTracking exitMcapSol probe).maxPct = some hi ∧ lo ≤ 0 ∧ 0 ≤ hi ∧
      ∀ col ∈ (spawnPostExitTracking exitMcapSol probe).columns, ∀ pct, col.2.2 = some pct →
        lo ≤ pct ∧ pct ≤ hi) ∧
    (⟨0, 0, 0⟩ :: sampleTimes probe 0 postExitCheckpointSecs).IsChain (OnTime probe) :=
  ⟨fun _ hcol => (column_eq hcol).2, maxMin_eq _ _, pct_between, onTime_chain probe _ ⟨0, 0, 0⟩⟩

end Loggaper
