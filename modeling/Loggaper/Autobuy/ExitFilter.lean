import Loggaper.Autobuy.ExitEngine
import Loggaper.Lib.Median

/-!
# The exit price among outliers

The exits read the median of the samples that lie in a band around the median of all valid samples.
Where more than half of the valid samples are close together, both medians lie among them.

- `Majority`: more than half of the valid samples lie in an interval.
- `filteredExitMcap_robust`: the exit price lies there too, and it is a valid sample whenever there
  is one.
-/

namespace Loggaper

/-- More than half of the valid samples lie between the bounds. -/
def Majority (a b : ℚ) (samples : List ℚ) : Prop :=
  samples.countP exitMcapValid < 2 * samples.countP fun m => exitMcapValid m ∧ a ≤ m ∧ m ≤ b

instance (a b : ℚ) (samples : List ℚ) : Decidable (Majority a b samples) :=
  inferInstanceAs (Decidable (_ < _))

section
variable {samples : List ℚ} {a b m med bandLow bandHigh : ℚ}

theorem exitMcapMedian_eq (samples : List ℚ) :
    exitMcapMedian samples = Median.upper (samples.filter exitMcapValid) := by
  simp only [exitMcapMedian, Median.upper, List.length_insertionSort]

theorem exitMcapMedian_mem (h : exitMcapMedian samples = some m) :
    m ∈ samples ∧ exitMcapValid m = true := by
  rw [exitMcapMedian_eq] at h
  exact List.mem_filter.mp (Median.upper_mem h)

theorem exitMcapMedian_isSome (hm : m ∈ samples) (hvalid : exitMcapValid m = true) :
    ∃ med, exitMcapMedian samples = some med := by
  rw [exitMcapMedian_eq]
  exact Median.upper_isSome (List.ne_nil_of_mem (List.mem_filter.mpr ⟨hm, hvalid⟩))

theorem nonneg_of_exitMcapValid (h : exitMcapValid m = true) : 0 ≤ m := by
  simp only [exitMcapValid, Bool.and_eq_true, decide_eq_true_eq] at h
  exact h.1.le

/-- No exit price is negative. -/
theorem filteredExitMcap_nonneg (samples : List ℚ) (enterMcap low high : ℚ) :
    0 ≤ filteredExitMcap samples enterMcap low high := by
  unfold filteredExitMcap
  dsimp only
  split
  · rename_i m h
    exact nonneg_of_exitMcapValid (exitMcapMedian_mem h).2
  · rename_i m _ h
    exact nonneg_of_exitMcapValid (exitMcapMedian_mem h).2
  · rename_i last _ _ h
    exact nonneg_of_exitMcapValid (List.find?_some h)
  · exact le_max_right _ _

/-- The median lies in the interval that holds the majority. -/
theorem Majority.median (h : Majority a b samples) (hmed : exitMcapMedian samples = some med) :
    a ≤ med ∧ med ≤ b := by
  have hbound (p : ℚ → Bool) (hp : ∀ m, a ≤ m ∧ m ≤ b → p m = true) :
      (samples.filter exitMcapValid).length < 2 * (samples.filter exitMcapValid).countP p := by
    have hle : (samples.countP fun m => exitMcapValid m ∧ a ≤ m ∧ m ≤ b) ≤
        (samples.filter exitMcapValid).countP p := by
      rw [List.countP_filter]
      apply List.countP_mono_left
      intro m _ hm
      rw [decide_eq_true_eq] at hm
      rw [hp m hm.2, hm.1]
      rfl
    rw [← List.countP_eq_length_filter]
    exact h.trans_le (by omega)
  rw [exitMcapMedian_eq] at hmed
  constructor
  · exact Median.le_upper (hbound _ fun m hm => by simpa using hm.1) hmed
  · exact Median.upper_le (hbound _ fun m hm => by simpa using hm.2) hmed

/-- Samples near the median are in its band. -/
theorem matchesBand_of_mem (ha : 0 < a) (hhigh : b ≤ bandHigh * a) (hlow : bandLow * b ≤ a)
    (h₁ : 1 ≤ bandHigh) (hmed : a ≤ med ∧ med ≤ b) (hvalid : exitMcapValid m = true)
    (hm : a ≤ m ∧ m ≤ b) : exitMcapMatchesBand m (some med) bandLow bandHigh = true := by
  have hpos : 0 < med := ha.trans_le hmed.1
  have hfloor : med * bandLow ≤ m := by
    rcases le_total 0 bandLow with hnonneg | hneg
    · calc med * bandLow ≤ b * bandLow := by gcongr; exact hmed.2
        _ = bandLow * b := mul_comm _ _
        _ ≤ a := hlow
        _ ≤ m := hm.1
    · have := mul_nonpos_of_nonneg_of_nonpos hpos.le hneg
      linarith [hm.1]
  have hceiling : m ≤ med * bandHigh := by
    calc m ≤ b := hm.2
      _ ≤ bandHigh * a := hhigh
      _ ≤ bandHigh * med := by gcongr; exact hmed.1
      _ = med * bandHigh := mul_comm _ _
  simp [exitMcapMatchesBand, hvalid, hfloor, hceiling]

/-- The band keeps the majority, since it drops outliers only. -/
theorem Majority.inBand (h : Majority a b samples) (ha : 0 < a) (hhigh : b ≤ bandHigh * a)
    (hlow : bandLow * b ≤ a) (h₁ : 1 ≤ bandHigh) (hmed : a ≤ med ∧ med ≤ b) :
    Majority a b (samples.filter fun m => exitMcapMatchesBand m (some med) bandLow bandHigh) := by
  unfold Majority at h ⊢
  have hfewer : (samples.filter fun m => exitMcapMatchesBand m (some med) bandLow bandHigh).countP
      exitMcapValid ≤ samples.countP exitMcapValid :=
    List.filter_sublist.countP_le
  have hsame : ((samples.filter fun m => exitMcapMatchesBand m (some med) bandLow bandHigh).countP
      fun m => exitMcapValid m ∧ a ≤ m ∧ m ≤ b) =
      samples.countP fun m => exitMcapValid m ∧ a ≤ m ∧ m ≤ b := by
    rw [List.countP_filter]
    apply List.countP_congr
    intro m _
    simp only [Bool.and_eq_true, decide_eq_true_eq, and_iff_left_iff_imp]
    intro hm
    exact matchesBand_of_mem ha hhigh hlow h₁ hmed hm.1 hm.2
  omega

end

/-- **The exit price among outliers.** Where more than half of the valid samples lie in an interval
that the band can bridge, the exit price lies in it; and it is one of the valid samples whenever
there is one. -/
theorem filteredExitMcap_robust (samples : List ℚ) (enterMcap bandLow bandHigh : ℚ)
    (hband : bandLow ≤ 1 ∧ 1 ≤ bandHigh) :
    let price := filteredExitMcap samples enterMcap bandLow bandHigh
    (∀ a b, Majority a b samples → 0 < a → b ≤ bandHigh * a → bandLow * b ≤ a →
      a ≤ price ∧ price ≤ b) ∧
    ((∃ m ∈ samples, exitMcapValid m = true) → price ∈ samples ∧ exitMcapValid price = true) := by
  constructor
  · intro a b hmajority ha hhigh hlow
    -- the majority is not empty, so there is a first median, and it lies in the interval
    have hsome : 0 < samples.countP fun m => exitMcapValid m ∧ a ≤ m ∧ m ≤ b := by
      unfold Majority at hmajority
      omega
    obtain ⟨m, hm, hmem⟩ := List.countP_pos_iff.mp hsome
    rw [decide_eq_true_eq] at hmem
    obtain ⟨med, hmed⟩ := exitMcapMedian_isSome hm hmem.1
    have hin := hmajority.median hmed
    have hrest := hmajority.inBand ha hhigh hlow hband.2 hin
    have hkept : m ∈ samples.filter fun m => exitMcapMatchesBand m (some med) bandLow bandHigh :=
      List.mem_filter.mpr ⟨hm, matchesBand_of_mem ha hhigh hlow hband.2 hin hmem.1 hmem.2⟩
    obtain ⟨price, hprice⟩ := exitMcapMedian_isSome hkept hmem.1
    have heq : filteredExitMcap samples enterMcap bandLow bandHigh = price := by
      simp only [filteredExitMcap, hmed, hprice]
    rw [heq]
    exact hrest.median hprice
  · intro ⟨m, hm, hvalid⟩
    obtain ⟨med, hmed⟩ := exitMcapMedian_isSome hm hvalid
    have hmedian := exitMcapMedian_mem hmed
    simp only [filteredExitMcap, hmed]
    cases hprice : exitMcapMedian
        (samples.filter fun m => exitMcapMatchesBand m (some med) bandLow bandHigh) with
    | none => exact hmedian
    | some price =>
      obtain ⟨hmem, hvalid'⟩ := exitMcapMedian_mem hprice
      exact ⟨(List.mem_filter.mp hmem).1, hvalid'⟩

/-- Three samples at 100 SOL, a stale one at 3 SOL and one far above. -/
theorem filteredExitMcap_robust_staleTick :
    let price := filteredExitMcap [100, 3, 102, 150000, 101] 28 (1 / 50) 50
    100 ≤ price ∧ price ≤ 102 :=
  (filteredExitMcap_robust [100, 3, 102, 150000, 101] 28 (1 / 50) 50 (by norm_num)).1 100 102
    (by decide +kernel) (by norm_num) (by norm_num) (by norm_num)

end Loggaper
