import Loggaper.Scoring.GateEvidence

/-!
# The cadence of new buyers

The persistence of a tape is documented as 0 for a strong decay and 1 for a strictly increasing
cadence of new buyers; from 0.62 on it may earn points, at 0.28 and below it counts as fading. The
classes of the cadence overlap, and the one that forgives a single buyer is asked for before the
decreasing one.

Main result: `velocityHonest_iff`.
-/

namespace Loggaper

/-- Neighbours of a list, as `windows(2)` shows them. -/
theorem all_windows_iff {α : Type*} (R : α → α → Prop) [DecidableRel R] (l : List α) :
    ((l.zip l.tail).all fun w => R w.1 w.2) = true ↔ l.IsChain R := by
  induction l with
  | nil => simp
  | cons a l ih =>
    cases l with
    | nil => simp
    | cons b l =>
      rw [List.tail_cons] at ih ⊢
      rw [List.zip_cons_cons, List.all_cons, Bool.and_eq_true, decide_eq_true_iff, ih,
        List.isChain_cons_cons]

/-- Nobody new in any slice. -/
def NoNewBuyers (d : List ℕ) : Prop := ∀ n ∈ d, n = 0

/-- Fewer new buyers from each slice to the next. -/
def Decreasing (d : List ℕ) : Prop := d.IsChain (· > ·)

/-- From some slice to the next at least two new buyers fewer. -/
def DropsByTwo (d : List ℕ) : Prop := ¬ d.IsChain fun a b => a ≤ b + 1

/-! ## The classes -/

/-- The first class that applies, as a chain of conditions. -/
theorem buyerPersistenceFromDeltas_eq {d : List ℕ} (hlen : 2 ≤ d.length) :
    buyerPersistenceFromDeltas d =
      if (d.zip d.tail).all (fun w => w.1 < w.2) then 1
      else if (d.zip d.tail).all fun w => w.1 ≤ w.2 + 1 then 18 / 25
      else if (d.zip d.tail).all fun w => w.2 < w.1 then 1 / 20
      else 19 / 50 := by
  match d with
  | [] => exact absurd hlen (by simp)
  | [_] => exact absurd hlen (by simp)
  | _ :: _ :: _ => rfl

theorem not_increasing_of_length {d : List ℕ} (hlen : 2 ≤ d.length)
    (h : NoNewBuyers d ∨ Decreasing d) : ¬ d.IsChain (· < ·) := by
  match d with
  | [] => exact absurd hlen (by simp)
  | [_] => exact absurd hlen (by simp)
  | a :: b :: rest =>
    intro hinc
    have hlt : a < b := (List.isChain_cons_cons.mp hinc).1
    rcases h with hnone | hdec
    · have hb : b = 0 := hnone b (by simp)
      omega
    · have hgt : a > b := (List.isChain_cons_cons.mp hdec).1
      omega

theorem isChain_of_noNewBuyers {d : List ℕ} (h : NoNewBuyers d) :
    d.IsChain fun a b => a ≤ b + 1 := by
  refine List.Pairwise.isChain (List.pairwise_of_forall_mem_list ?_)
  intro a ha b _
  rw [h a ha]
  exact Nat.zero_le _

/-- A tape without new buyers is in the class of 0.72, and so is one that loses one a slice. -/
theorem persistence_of_no_drop {d : List ℕ} (hlen : 2 ≤ d.length)
    (h : NoNewBuyers d ∨ Decreasing d) (hdrop : ¬ DropsByTwo d) :
    buyerPersistenceFromDeltas d = 18 / 25 := by
  have hinc := not_increasing_of_length hlen h
  rw [buyerPersistenceFromDeltas_eq hlen, if_neg (mt (all_windows_iff _ d).mp hinc),
    if_pos ((all_windows_iff _ d).mpr (not_not.mp hdrop))]

theorem persistence_of_drop {d : List ℕ} (hlen : 2 ≤ d.length) (hdec : Decreasing d)
    (hdrop : DropsByTwo d) : buyerPersistenceFromDeltas d = 1 / 20 := by
  have hinc := not_increasing_of_length hlen (.inr hdec)
  have hdown : ((d.zip d.tail).all fun w => w.2 < w.1) = true :=
    (all_windows_iff (fun a b => b < a) d).mpr hdec
  rw [buyerPersistenceFromDeltas_eq hlen, if_neg (mt (all_windows_iff _ d).mp hinc),
    if_neg (mt (all_windows_iff _ d).mp hdrop), if_pos hdown]

/-! ## The signal of a tape -/

/-- The new buyers of each slice of the tape. -/
def newBuyersPerSlice (points : List EarlyTapePoint) : List ℕ :=
  (points.zip points.tail).map fun w => w.2.buyerCount - w.1.buyerCount

theorem length_newBuyersPerSlice (points : List EarlyTapePoint) :
    (newBuyersPerSlice points).length = points.length - 1 := by
  simp [newBuyersPerSlice]

/-- The features carry the cadence of this tape. -/
structure TokenFeatures.Carries (f : TokenFeatures) (tape : ScoringTapeDerived) : Prop where
  slices : f.buyerVelocityNewPerSlice = tape.buyerVelocityNewPerSlice
  persistence : f.buyerVelocityPersistence = tape.buyerVelocityPersistence

theorem fromTapePoints_persistence (tanh : ℚ → ℚ) {points : List EarlyTapePoint}
    (hne : points ≠ []) (exits : ℕ) :
    (ScoringTapeDerived.fromTapePoints tanh points exits).buyerVelocityPersistence =
      buyerPersistenceFromDeltas (newBuyersPerSlice points) := by
  cases points with
  | nil => exact absurd rfl hne
  | cons first rest => rfl

/-- What the documentation promises of a tape that fades or is dead. -/
structure VelocityHonest (tanh : ℚ → ℚ) (points : List EarlyTapePoint) (exits : ℕ) : Prop where
  below : (ScoringTapeDerived.fromTapePoints tanh points exits).buyerVelocityPersistence < 31 / 50
  uncredited : ∀ (cfg : ScoringConfig) (t : FeatureThresholds) (f : TokenFeatures),
    f.Carries (.fromTapePoints tanh points exits) →
      (ScoreEngine.score cfg f t).items.has "buyer_velocity_persistent" = false
  fading : Decreasing (newBuyersPerSlice points) →
    (ScoringTapeDerived.fromTapePoints tanh points exits).buyerVelocityPersistence ≤ 7 / 25

/-- Below 0.62 no configuration credits the cadence. -/
theorem has_persistent_eq_false {f : TokenFeatures} (h : f.buyerVelocityPersistence < 31 / 50)
    (cfg : ScoringConfig) (t : FeatureThresholds) :
    (ScoreEngine.score cfg f t).items.has "buyer_velocity_persistent" = false := by
  rw [ScoreEngine.score_items]
  have hlisted := ScoreEngine.has_listed_entries cfg f (ScoreEngine.thresholdsInUse cfg t)
    .velocityPersistent
  have hshown : ItemEvidence.velocityPersistent.shown cfg f (ScoreEngine.thresholdsInUse cfg t) =
      false := by
    simp [ItemEvidence.shown, ScoreEngine.persistentVelocity, not_le.mpr h]
  rw [hshown, Bool.false_and] at hlisted
  exact hlisted

/-- **The cadence of a dead or fading tape.** The signal is what it is documented to be exactly when
the new buyers decrease, somewhere by two or more: without new buyers, or with one fewer in each
slice, the tape is in the class of 0.72. -/
theorem velocityHonest_iff (tanh : ℚ → ℚ) {points : List EarlyTapePoint} (exits : ℕ)
    (hlen : 3 ≤ points.length)
    (h : NoNewBuyers (newBuyersPerSlice points) ∨ Decreasing (newBuyersPerSlice points)) :
    VelocityHonest tanh points exits ↔
      Decreasing (newBuyersPerSlice points) ∧ DropsByTwo (newBuyersPerSlice points) := by
  have hslices : 2 ≤ (newBuyersPerSlice points).length := by
    rw [length_newBuyersPerSlice]
    omega
  have hne : points ≠ [] := by
    rintro rfl
    exact absurd hlen (by simp)
  have hvalue := fromTapePoints_persistence tanh hne exits
  constructor
  · intro honest
    have hdrop : DropsByTwo (newBuyersPerSlice points) := by
      by_contra hno
      have hbelow := honest.below
      rw [hvalue, persistence_of_no_drop hslices h hno] at hbelow
      norm_num at hbelow
    refine ⟨?_, hdrop⟩
    rcases h with hnone | hdec
    · exact absurd (isChain_of_noNewBuyers hnone) hdrop
    · exact hdec
  · rintro ⟨hdec, hdrop⟩
    rw [persistence_of_drop hslices hdec hdrop] at hvalue
    have hbelow : (ScoringTapeDerived.fromTapePoints tanh points exits).buyerVelocityPersistence <
        31 / 50 := by
      rw [hvalue]
      norm_num
    refine ⟨hbelow, ?_, ?_⟩
    · intro cfg t f hcarries
      refine has_persistent_eq_false ?_ cfg t
      rw [hcarries.persistence]
      exact hbelow
    · intro _
      rw [hvalue]
      norm_num

/-- A sample with this many buyers. -/
def sampleWithBuyers (n : ℕ) : EarlyTapePoint := ⟨n, n, 0, n, 0, 0, 50⟩

theorem velocityHonest_iff_fading :
    VelocityHonest id ([0, 5, 7, 8].map sampleWithBuyers) 0 ↔
      Decreasing (newBuyersPerSlice ([0, 5, 7, 8].map sampleWithBuyers)) ∧
        DropsByTwo (newBuyersPerSlice ([0, 5, 7, 8].map sampleWithBuyers)) :=
  velocityHonest_iff id 0 (by simp) (.inr (by
    rw [Decreasing, ← all_windows_iff]
    decide))

/-- **A fading tape that is credited.** The slices bring three, two and one new buyers, which is
0.72; so is a tape that nobody joins. -/
theorem fading_credited :
    ¬ VelocityHonest id ([4, 7, 9, 10].map sampleWithBuyers) 0 ∧
      ¬ VelocityHonest id ([4, 4, 4].map sampleWithBuyers) 0 := by
  constructor
  · intro honest
    have hbelow := honest.below
    revert hbelow
    decide +kernel
  · intro honest
    have hbelow := honest.below
    revert hbelow
    decide +kernel

end Loggaper
