import Loggaper.Pipeline.Continuation

/-!
# The scoring window

The window asks for the token's bucket once a slice and takes a sample of each answer. It stops when
the market cap has grown enough; otherwise it may ask once more at its end, and then the last sample
is replaced by the new one. The peak of the window is taken from the samples that are left.

Main result: `peakCovers_iff`.
-/

namespace Loggaper

/-- A bucket that the launchpad has answered with, and the sample of it. -/
structure LiveSample where
  bucket : TokenBucket
  point : EarlyTapePoint

structure LiveTapeObserve extends EarlyTapeObserveResult where
  exitedEarly : Bool
  lastBucket : Option TokenBucket

def finalizeLiveTape (points : List EarlyTapePoint) (exitedEarly : Bool)
    (lastBucket : Option TokenBucket) : LiveTapeObserve :=
  { finalizeTapeObserve points with exitedEarly, lastBucket }

def tapeHitMomentumLow (initial peak lowPct : ℚ) : Bool :=
  decide (0 < initial) && decide (lowPct ≤ momentumPeakPct initial peak)

/-- What the loop over the slices carries. -/
structure SliceState where
  out : List EarlyTapePoint := []
  initialMcapSol : ℚ := 0
  peakMcapSol : ℚ := 0
  lastBucket : Option TokenBucket := none

namespace SliceState

/-- A new sample; the first one starts the peak. -/
def push (st : SliceState) (sample : LiveSample) : SliceState where
  out := st.out ++ [sample.point]
  initialMcapSol := if st.out.isEmpty then sample.point.mcapSol else st.initialMcapSol
  peakMcapSol :=
    if st.out.isEmpty then sample.point.mcapSol else max st.peakMcapSol sample.point.mcapSol
  lastBucket := some sample.bucket

/-- The slices, each with the answer to its question, and whether the window stopped at one. -/
def observe (low : Option ℚ) : List (Option LiveSample) → SliceState → SliceState × Bool
  | [], st => (st, false)
  | none :: rest, st => observe low rest st
  | some sample :: rest, st =>
    let st := st.push sample
    if low.any (tapeHitMomentumLow st.initialMcapSol st.peakMcapSol) then (st, true)
    else observe low rest st

end SliceState

section
variable (fetch : ℕ → Option LiveSample) (windowMs slices : ℕ) (low : Option ℚ)

/-- The loop; `fetch i` answers the question of slice `i`. -/
def observeSlices : SliceState × Bool :=
  SliceState.observe low ((List.range slices).map fetch) {}

/-- The answer at the end of the window, if it has any time left after its slices. -/
def refresh : Option LiveSample :=
  let windowMs := max windowMs 1
  let sliceMs := max (windowMs / slices) 1
  let used := min (sliceMs * (slices - 1)) u64Max
  if used < windowMs then fetch slices else none

/-- The early-exit flag is set after the window, too. -/
def finishTape (points : List EarlyTapePoint) (lastBucket : Option TokenBucket) : LiveTapeObserve :=
  let result := finalizeLiveTape points false lastBucket
  { result with
    exitedEarly := low.any (tapeHitMomentumLow result.initialMcapSol result.peakMcapSol) }

def observeEarlyTapePointsLive : LiveTapeObserve :=
  if slices ≤ 1 then
    match fetch 0 with
    | some sample => finalizeLiveTape [sample.point] false (some sample.bucket)
    | none => finalizeLiveTape [] false none
  else
    let (st, exited) := observeSlices fetch slices low
    if exited then finalizeLiveTape st.out true st.lastBucket
    else
      match refresh fetch windowMs slices with
      | none => finishTape low st.out st.lastBucket
      | some sample =>
        if st.out.isEmpty then finalizeLiveTape [sample.point] false (some sample.bucket)
        else finishTape low (st.out.dropLast ++ [sample.point]) (some sample.bucket)

/-- The peak that goes into the features, for the momentum score. -/
def peakForScore (observed : LiveTapeObserve) : ℚ :=
  max observed.peakMcapSol observed.currentMcapSol

end

/-! ## All samples of a window -/

/-- The samples of the slices, and the one at the end of the window. -/
structure WindowSamples where
  slices : List EarlyTapePoint
  refreshed : Option EarlyTapePoint

namespace WindowSamples

variable (w : WindowSamples)

/-- Every sample that was taken. -/
def all : List EarlyTapePoint := w.slices ++ w.refreshed.toList

/-- The samples that are left. -/
def kept : List EarlyTapePoint :=
  match w.refreshed with
  | none => w.slices
  | some point => w.slices.dropLast ++ [point]

/-- The sample that the last one has replaced. -/
def replaced : Option EarlyTapePoint := if w.refreshed.isSome then w.slices.getLast? else none

/-- What was taken is kept or replaced. -/
theorem mem_all_iff {p : EarlyTapePoint} : p ∈ w.all ↔ p ∈ w.kept ∨ p ∈ w.replaced := by
  obtain ⟨slices, refreshed⟩ := w
  cases refreshed with
  | none => simp [all, kept, replaced]
  | some point =>
    cases slices using List.reverseRecOn with
    | nil => simp [all, kept, replaced]
    | append_singleton rest last =>
      simp only [all, kept, replaced, Option.toList_some, List.dropLast_concat,
        List.getLast?_concat, Option.isSome_some, if_true, Option.mem_def, Option.some.injEq,
        List.mem_append, List.mem_singleton]
      constructor
      · rintro ((hrest | rfl) | rfl)
        · exact .inl (.inl hrest)
        · exact .inr rfl
        · exact .inl (.inr rfl)
      · rintro ((hrest | rfl) | rfl)
        · exact .inl (.inl hrest)
        · exact .inr rfl
        · exact .inl (.inr rfl)

end WindowSamples

/-- The samples that a window takes until it stops. -/
def windowSamples (fetch : ℕ → Option LiveSample) (windowMs slices : ℕ) (low : Option ℚ) :
    WindowSamples :=
  if slices ≤ 1 then ⟨((fetch 0).map LiveSample.point).toList, none⟩
  else
    let (st, exited) := observeSlices fetch slices low
    ⟨st.out, if exited then none else (refresh fetch windowMs slices).map LiveSample.point⟩

section
variable (fetch : ℕ → Option LiveSample) (windowMs slices : ℕ) (low : Option ℚ)

/-- The observation is the summary of the samples that are left. -/
theorem observeEarlyTapePointsLive_eq :
    (observeEarlyTapePointsLive fetch windowMs slices low).toEarlyTapeObserveResult =
      finalizeTapeObserve (windowSamples fetch windowMs slices low).kept := by
  unfold observeEarlyTapePointsLive windowSamples
  by_cases hone : slices ≤ 1
  · rw [if_pos hone, if_pos hone]
    cases fetch 0 <;> rfl
  · rw [if_neg hone, if_neg hone]
    obtain ⟨st, exited⟩ := observeSlices fetch slices low
    cases exited with
    | true => rfl
    | false =>
      cases refresh fetch windowMs slices with
      | none => rfl
      | some sample =>
        cases hout : st.out with
        | nil => simp [WindowSamples.kept, finalizeLiveTape, hout]
        | cons first rest => simp [WindowSamples.kept, finishTape, finalizeLiveTape, hout]

end

/-! ## The peak -/

theorem le_foldl_max_iff (l : List ℚ) (a x : ℚ) :
    x ≤ l.foldl max a ↔ x ≤ a ∨ ∃ y ∈ l, x ≤ y := by
  induction l generalizing a with
  | nil => simp
  | cons y l ih => simp [ih, or_assoc]

/-- The peak is that of a kept sample, as long as there is one. -/
theorem le_peak_iff {points : List EarlyTapePoint} (hne : points ≠ []) (x : ℚ) :
    x ≤ (finalizeTapeObserve points).peakMcapSol ↔ ∃ p ∈ points, x ≤ p.mcapSol := by
  cases points with
  | nil => exact absurd rfl hne
  | cons first rest =>
    show x ≤ List.foldl max first.mcapSol ((first :: rest).map _) ↔ _
    rw [le_foldl_max_iff]
    simp

/-- The last sample is kept, so its market cap adds nothing to the peak. -/
theorem peakForScore_eq (fetch : ℕ → Option LiveSample) (windowMs slices : ℕ) (low : Option ℚ) :
    peakForScore (observeEarlyTapePointsLive fetch windowMs slices low) =
      (finalizeTapeObserve (windowSamples fetch windowMs slices low).kept).peakMcapSol := by
  have hobserved := observeEarlyTapePointsLive_eq fetch windowMs slices low
  set points := (windowSamples fetch windowMs slices low).kept
  rw [peakForScore, hobserved]
  apply max_eq_left
  cases hlast : points.getLast? with
  | none => simp [finalizeTapeObserve, hlast]
  | some last =>
    have hmem : last ∈ points := List.mem_of_getLast? hlast
    have hcurrent : (finalizeTapeObserve points).currentMcapSol = last.mcapSol := by
      simp [finalizeTapeObserve, hlast]
    rw [hcurrent, le_peak_iff (List.ne_nil_of_mem hmem)]
    exact ⟨last, hmem, le_rfl⟩

/-- The peak for the score is at least every market cap that was seen. -/
def PeakCovers (fetch : ℕ → Option LiveSample) (windowMs slices : ℕ) (low : Option ℚ) : Prop :=
  ∀ p ∈ (windowSamples fetch windowMs slices low).all,
    p.mcapSol ≤ peakForScore (observeEarlyTapePointsLive fetch windowMs slices low)

/-- **The recorded peak covers the window** exactly when no sample is replaced that is higher than
all that are left. -/
theorem peakCovers_iff (fetch : ℕ → Option LiveSample) (windowMs slices : ℕ) (low : Option ℚ) :
    PeakCovers fetch windowMs slices low ↔
      ∀ last ∈ (windowSamples fetch windowMs slices low).replaced,
        ∃ p ∈ (windowSamples fetch windowMs slices low).kept, last.mcapSol ≤ p.mcapSol := by
  unfold PeakCovers
  rw [peakForScore_eq]
  set w := windowSamples fetch windowMs slices low
  constructor
  · intro hcovers last hlast
    have hle := hcovers last (w.mem_all_iff.mpr (.inr hlast))
    refine (le_peak_iff ?_ _).mp hle
    -- a sample is replaced by another one
    intro hnil
    cases hrefreshed : w.refreshed with
    | none => simp [WindowSamples.replaced, hrefreshed] at hlast
    | some point => simp [WindowSamples.kept, hrefreshed] at hnil
  · intro hleft p hp
    rcases w.mem_all_iff.mp hp with hkept | hreplaced
    · exact (le_peak_iff (List.ne_nil_of_mem hkept) _).mpr ⟨p, hkept, le_rfl⟩
    · obtain ⟨q, hq, hle⟩ := hleft p hreplaced
      exact (le_peak_iff (List.ne_nil_of_mem hq) _).mpr ⟨q, hq, hle⟩

/-- The answers 100, 110 and 101 SOL to the questions of two slices and of the end. -/
def dippingAnswers (i : ℕ) : Option LiveSample :=
  ([100, 110, 101][i]?).map fun mcapSol => ⟨.new (.new 7 8) 0, ScoredEntry.sampleAt mcapSol⟩

/-- **A peak that is lost.** A window of 2001 ms sees 110 SOL in its second slice, below the growth
at which it stops, and 101 SOL at its end. The recorded peak is 101. -/
theorem peak_replaced : ¬ PeakCovers dippingAnswers 2001 2 (some 12) := by
  unfold PeakCovers
  decide +kernel

end Loggaper
