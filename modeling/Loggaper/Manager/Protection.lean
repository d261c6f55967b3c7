import Loggaper.Manager.Stages

/-!
# Before and after the protection is upgraded

The upgrade of the protection stands between the full exits with the market-cap ceiling and the
take-profit levels.

- `runExits_eq_protection`: the exits, cut there.
- `exitsBeforeProtection_eq`, `exitsAfterProtection_eq`: the two parts as lists of stages.
-/

namespace Loggaper

section
variable (cfg : SmartBuyConfig) (v : TickView) (p : Position)

/-- The exits before the protection is upgraded. -/
def exitsBeforeProtection (p : Position) : Flow :=
  (exitMomentumDecay cfg v p).bind fun p =>
  (exitTimeKill cfg v p).bind fun p =>
  (exitStopLoss cfg v p).bind fun p =>
  (exitMcapCeiling cfg v p).bind fun p =>
  exitTrailing cfg v p

/-- The take-profit levels, once the protection is upgraded. -/
def exitsAfterProtection (p : Position) : Flow :=
  (skipWhilePartialPending p).bind fun p =>
  (exitTakeProfit cfg .tp1 v p).bind fun p =>
  (exitTakeProfit cfg .tp2 v p).bind fun p =>
  (exitTakeProfit cfg .tp3 v p).bind fun p =>
  (exitTakeProfit cfg .tp4 v p).bind fun p =>
  exitTakeProfit cfg .tp5 v p

theorem exitsBeforeProtection_eq :
    exitsBeforeProtection cfg v p =
      runStages cfg v [.momentumDecay, .timeKill, .stopLoss, .mcapCeiling, .trailing] p := by
  have hlast (q : Position) : runStages cfg v [.trailing] q = exitTrailing cfg v q :=
    Flow.bind_next _
  simp only [exitsBeforeProtection, ← hlast]
  rfl

theorem exitsAfterProtection_eq :
    exitsAfterProtection cfg v p = runStages cfg v (.partialPending ::
      [TpLevel.tp1, .tp2, .tp3, .tp4, .tp5].map .takeProfit) p := by
  simp only [exitsAfterProtection, exitTakeProfit_eq_runStages cfg v _ .tp5]
  rfl

theorem runExits_eq_protection :
    runExits cfg v p = (exitsBeforeProtection cfg v p).bind fun q =>
      exitsAfterProtection cfg v (upgradeProtection cfg v q) := by
  simp only [runExits, exitsBeforeProtection, exitsAfterProtection, Flow.bind_assoc]

end

theorem SellReason.stage_of_level {r : SellReason} {n : TpLevel} (h : r.level = some (.tp n)) :
    r.stage = some (.takeProfit n) := by
  cases r with
  | takeProfit m pct state =>
    cases h
    rfl
  | _ => cases h

end Loggaper
