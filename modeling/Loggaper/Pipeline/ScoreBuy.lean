import Loggaper.Manager.Config
import Loggaper.Scoring.Config

/-!
# From a score to a buy signal

The last stage of the scoring pipeline: the recommended size of the tier, cut to the operator's
cap, goes to the position manager.
-/

namespace Loggaper

/-- `f64::EPSILON`. -/
def f64Epsilon : ℚ := 1 / 2 ^ 52

theorem f64Epsilon_pos : 0 < f64Epsilon := by
  unfold f64Epsilon; positivity

/-- Stage 4: the size of the tier, at most the operator's cap. A size of zero sends nothing. -/
def dispatchBuy (size : SizeConfig) (operatorCap : ℚ) (pool : Pool) (tier : Tier)
    (dev : Address) (buyersForPosition : List Address)
    (learningSnapshot : LearningTradeSnapshot) : Option PositionMessage :=
  let amountSol := max (min (size.recommendedSizeSol tier) operatorCap) 0
  if amountSol ≤ f64Epsilon then none
  else some (.initiateBuy pool amountSol tier (some dev) buyersForPosition (some learningSnapshot))

/-- What is sent asks for at most the cap. -/
theorem dispatchBuy_eq_some {size : SizeConfig} {operatorCap : ℚ} {pool : Pool} {tier : Tier}
    {dev : Address} {buyers : List Address} {snap : LearningTradeSnapshot} {msg : PositionMessage}
    (h : dispatchBuy size operatorCap pool tier dev buyers snap = some msg) :
    ∃ amountSol ≤ operatorCap,
      msg = .initiateBuy pool amountSol tier (some dev) buyers (some snap) := by
  simp only [dispatchBuy] at h
  split_ifs at h with hzero
  cases h
  refine ⟨_, ?_, rfl⟩
  have hpos : 0 < max (min (size.recommendedSizeSol tier) operatorCap) 0 :=
    f64Epsilon_pos.trans (not_le.mp hzero)
  rcases lt_max_iff.mp hpos with hmin | hself
  · rw [max_eq_left hmin.le]
    exact min_le_right _ _
  · exact absurd hself (lt_irrefl 0)

end Loggaper
