import Mathlib.Algebra.Order.Ring.Rat

/-!
# Market cap of a graduated position

The pure choice between the bonding curve's market cap and Jupiter's for an open position.
-/

namespace Loggaper

def openExitJupiterDivergenceRatio : ℚ := 17 / 20

def openExitMcapPollSecs : ℕ := 3

/-- The market cap to use, and whether it counts as Jupiter's. -/
def decideOpenExitMcap (bonding jupiter : Option ℚ) (poolRawMcap : ℚ) (forceJupiter : Bool) :
    ℚ × Bool :=
  let validJ := jupiter.filter (0 < ·)
  let validB := bonding.filter (0 < ·)
  if forceJupiter then
    match validJ, validB with
    | some j, _ => (j, true)
    | none, some b => (b, true)
    | none, none => (poolRawMcap, true)
  else
    match validJ, validB with
    | some j, some b => if j < b * openExitJupiterDivergenceRatio then (j, true) else (b, false)
    | some j, none => if bonding.isNone then (j, true) else (poolRawMcap, false)
    | none, some b => (b, false)
    | none, none => (poolRawMcap, false)

end Loggaper
