import Loggaper.Manager.LiveTape

/-!
# The live rates of a steady tape

A refresh counts the buyers and holders that are new since the tape of the row, and divides by the
seconds that the row has been held. A tape that gains the same in every interval is then reported at
a lower and lower rate.

- `Sampling`: refreshes of a row at equal intervals, each over before the next one starts.
- `Sampling.sameRates_iff`: the steady tapes that are reported at one rate.
- `rates_fall`: a steady tape reported at half its first rate.
-/

namespace Loggaper

/-- What a refresh reports that starts from this row and runs at this millisecond. -/
def refreshAt (tanh : ℚ → ℚ) (tolerance : ℚ) (reads : LiveReads) (nowMs : ℕ) (row : Position) :
    LivePositionSnapshot :=
  snapshotLivePosition tanh reads row.liveTapeCurr (nowMs / 1000 - row.entryTime) row.earlyBuyers
    tolerance

/-- A refresh that the manager starts from a row reports this. -/
theorem eq_refreshAt {tanh : ℚ → ℚ} {tolerance : ℚ} {buckets : Buckets} {mint : Address}
    {row : Position} {since nowMs : ℕ} {live : LivePositionSnapshot} {x : LiveAnswer}
    {source : Option LiveSource} (hnow : x.now = nowMs / 1000)
    (h : (liveNotes tanh tolerance).answered buckets
      (.liveSnapshot mint row.liveTapeCurr row.entryTime row.earlyBuyers) since (.live live) x =
        some source) :
    live = refreshAt tanh tolerance x.reads nowMs row ∧ source = some row.liveSource := by
  simp only [liveNotes] at h
  split_ifs at h with hreads
  cases h
  rw [hreads.2, hnow]
  exact ⟨rfl, rfl⟩

/-- Refreshes at equal intervals. `rows k` is the row from which refresh `k` starts; by the next one
it has taken over the snapshot, whatever else has changed in it. -/
structure Sampling (tanh : ℚ → ℚ) (tolerance : ℚ) where
  startMs : ℕ
  intervalMs : ℕ
  reads : ℕ → LiveReads
  v4 : ExitEngineV4Config
  env : ℕ → TurnEnv
  rows : ℕ → Position
  takesOver (k : ℕ) : (rows (k + 1)).liveSource =
    (PositionManagerActor.applyLive v4 (env k)
      (refreshAt tanh tolerance (reads k) (startMs + k * intervalMs) (rows k)) (rows k)).liveSource

namespace Sampling

variable {tanh : ℚ → ℚ} {tolerance : ℚ} (s : Sampling tanh tolerance)

/-- What refresh `k` reports. -/
def sample (k : ℕ) : LivePositionSnapshot :=
  refreshAt tanh tolerance (s.reads k) (s.startMs + k * s.intervalMs) (s.rows k)

/-- The seconds that the row has been held at refresh `k`, at least one. -/
def heldAt (k : ℕ) : ℕ := max ((s.startMs + k * s.intervalMs) / 1000 - (s.rows 0).entryTime) 1

/-- The first `n` refreshes see these many new buyers and holders, and this volume, in each
interval. -/
structure Steady (n buyers holders : ℕ) (volume : ℚ) : Prop where
  buyers (k : ℕ) : k + 1 < n → (s.sample (k + 1)).tape.buyerCount =
    (s.sample k).tape.buyerCount + buyers
  holders (k : ℕ) : k + 1 < n → (s.sample (k + 1)).tape.stillLong =
    (s.sample k).tape.stillLong + holders
  volume (k : ℕ) : k + 1 < n → (s.sample (k + 1)).tape.buyVolumeSol =
    (s.sample k).tape.buyVolumeSol + volume

/-- All of the first `n` refreshes but the very first report the same rates. -/
def SameRates (n : ℕ) : Prop :=
  ∀ j k, 0 < j → j < n → 0 < k → k < n →
    (s.sample j).buyersPerSec = (s.sample k).buyersPerSec ∧
      (s.sample j).holderGrowthRate = (s.sample k).holderGrowthRate

variable {s}

theorem entryTime_rows (k : ℕ) : (s.rows k).entryTime = (s.rows 0).entryTime := by
  induction k with
  | zero => rfl
  | succ k ih => exact (congrArg LiveSource.entryTime (s.takesOver k)).trans ih

/-- **The rates of a steady tape** are its gains in an interval over the seconds held. -/
theorem rates_of_steady {n buyers holders : ℕ} {volume : ℚ} (h : s.Steady n buyers holders volume)
    {k : ℕ} (hk : k + 1 < n) :
    (s.sample (k + 1)).buyersPerSec = buyers / s.heldAt (k + 1) ∧
      (s.sample (k + 1)).holderGrowthRate = holders / s.heldAt (k + 1) := by
  have htape : (s.rows (k + 1)).liveTapeCurr = some (s.sample k).tape :=
    congrArg LiveSource.prev (s.takesOver k)
  have hheld : (max ((s.startMs + (k + 1) * s.intervalMs) / 1000 - (s.rows (k + 1)).entryTime) 1 :
      ℕ) = s.heldAt (k + 1) := by
    rw [entryTime_rows]
    rfl
  have hbuyers : (s.sample (k + 1)).buyersPerSec =
      ((s.sample (k + 1)).tape.buyerCount - (s.sample k).tape.buyerCount : ℕ) /
        s.heldAt (k + 1) := by
    rw [← hheld]
    unfold sample refreshAt
    rw [htape]
    rfl
  have hholders : (s.sample (k + 1)).holderGrowthRate =
      ((s.sample (k + 1)).tape.stillLong - (s.sample k).tape.stillLong : ℕ) /
        s.heldAt (k + 1) := by
    rw [← hheld]
    unfold sample refreshAt
    rw [htape]
    rfl
  rw [hbuyers, hholders, h.buyers k hk, h.holders k hk, Nat.add_sub_cancel_left,
    Nat.add_sub_cancel_left]
  exact ⟨rfl, rfl⟩

/-- **When a steady tape has one rate.** The first `n` refreshes of a tape that gains the same in
every interval report the same rates, the very first one aside, if and only if the tape gains
neither buyers nor holders, or these refreshes all find the row held for the same number of
seconds. -/
theorem sameRates_iff {n buyers holders : ℕ} {volume : ℚ} (h : s.Steady n buyers holders volume) :
    s.SameRates n ↔ (buyers = 0 ∧ holders = 0) ∨
      ∀ j k, 0 < j → j < n → 0 < k → k < n → s.heldAt j = s.heldAt k := by
  have hpos (k : ℕ) : (0 : ℚ) < s.heldAt k := by
    exact_mod_cast Nat.lt_of_lt_of_le Nat.one_pos (le_max_right _ _)
  have hrates (k : ℕ) (hk : 0 < k) (hn : k < n) :
      (s.sample k).buyersPerSec = buyers / s.heldAt k ∧
        (s.sample k).holderGrowthRate = holders / s.heldAt k := by
    obtain ⟨i, rfl⟩ := Nat.exists_eq_add_of_lt hk
    rw [zero_add] at hn ⊢
    exact rates_of_steady h hn
  constructor
  · intro hsame
    by_cases hnone : buyers = 0 ∧ holders = 0
    · exact .inl hnone
    refine .inr fun j k hj hjn hk hkn => ?_
    obtain ⟨hbuyers, hholders⟩ := hsame j k hj hjn hk hkn
    rw [(hrates j hj hjn).1, (hrates k hk hkn).1] at hbuyers
    rw [(hrates j hj hjn).2, (hrates k hk hkn).2] at hholders
    have hcancel {gain : ℕ} (hgain : gain ≠ 0)
        (heq : (gain : ℚ) / s.heldAt j = gain / s.heldAt k) : s.heldAt j = s.heldAt k := by
      rw [div_eq_div_iff (hpos j).ne' (hpos k).ne'] at heq
      have hcast : (s.heldAt k : ℚ) = s.heldAt j :=
        mul_left_cancel₀ (Nat.cast_ne_zero.mpr hgain) heq
      exact_mod_cast hcast.symm
    rw [not_and_or] at hnone
    rcases hnone with hgain | hgain
    · exact hcancel hgain hbuyers
    · exact hcancel hgain hholders
  · intro hcond j k hj hjn hk hkn
    rw [(hrates j hj hjn).1, (hrates k hk hkn).1, (hrates j hj hjn).2, (hrates k hk hkn).2]
    rcases hcond with ⟨rfl, rfl⟩ | hheld
    · simp
    · rw [hheld j k hj hjn hk hkn]
      exact ⟨rfl, rfl⟩

end Sampling

/-- A row that takes over one snapshot after the other. -/
def takenOver (tanh : ℚ → ℚ) (tolerance : ℚ) (reads : ℕ → LiveReads) (startMs intervalMs : ℕ)
    (row : Position) : ℕ → Position
  | 0 => row
  | k + 1 =>
    let pos := takenOver tanh tolerance reads startMs intervalMs row k
    PositionManagerActor.applyLive {} soldEnv
      (refreshAt tanh tolerance (reads k) (startMs + k * intervalMs) pos) pos

/-- Refreshes of a row that was opened at second 100. -/
def Sampling.of (reads : ℕ → LiveReads) (startMs intervalMs : ℕ) : Sampling id 0 where
  startMs := startMs
  intervalMs := intervalMs
  reads := reads
  v4 := {}
  env _ := soldEnv
  rows := takenOver id 0 reads startMs intervalMs
    (.new "wallet_1" (smallPool 1) (.fromFloatNative 1000) 100 none)
  takesOver _ := rfl

/-- One more buyer at every refresh. -/
def oneMoreEach (k : ℕ) : LiveReads := Taped.readsOf (List.range k)

theorem oneMoreEach_steady (startMs intervalMs : ℕ) :
    (Sampling.of oneMoreEach startMs intervalMs).Steady 4 1 1 (1 / 10) := by
  have hgain : ∀ k < 3,
      (tapePoint ((oneMoreEach (k + 1)).participants 0) 30).buyerCount =
          (tapePoint ((oneMoreEach k).participants 0) 30).buyerCount + 1 ∧
        (tapePoint ((oneMoreEach (k + 1)).participants 0) 30).stillLong =
          (tapePoint ((oneMoreEach k).participants 0) 30).stillLong + 1 ∧
        (tapePoint ((oneMoreEach (k + 1)).participants 0) 30).buyVolumeSol =
          (tapePoint ((oneMoreEach k).participants 0) 30).buyVolumeSol + 1 / 10 := by
    decide +kernel
  exact
    { buyers := fun k hk => (hgain k (by omega)).1
      holders := fun k hk => (hgain k (by omega)).2.1
      volume := fun k hk => (hgain k (by omega)).2.2 }

/-- Refreshes within one second report one rate. -/
theorem Sampling.sameRates_iff_withinOneSecond :
    (Sampling.of oneMoreEach 110000 300).SameRates 4 := by
  have hheld : ∀ k < 4, (Sampling.of oneMoreEach 110000 300).heldAt k = 10 := by decide +kernel
  exact (Sampling.sameRates_iff (oneMoreEach_steady 110000 300)).mpr
    (.inr fun j k _ hj _ hk => (hheld j hj).trans (hheld k hk).symm)

/-- A buyer every ten seconds: reported as one in 20 seconds, and then as one in 40. -/
theorem rates_fall :
    let s := Sampling.of oneMoreEach 110000 10000
    s.Steady 4 1 1 (1 / 10) ∧ ¬ s.SameRates 4 := by
  refine ⟨oneMoreEach_steady 110000 10000, fun hsame => ?_⟩
  obtain ⟨hbuyers, -⟩ := hsame 1 3 (by decide) (by decide) (by decide) (by decide)
  revert hbuyers
  decide +kernel

end Loggaper
