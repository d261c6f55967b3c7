import Loggaper.Helper
import Loggaper.Lib.KeyedMap

/-!
# Curve quarantine

A short cooldown for a mint whose exit looked fine on the market-cap tape while the realized SOL
result was badly negative.
-/

namespace Loggaper

structure CurveQuarantineConfig where
  enabled : Bool := true
  cooldownSecs : ℕ := 24 * 3600
  minMcapSolDivergencePct : ℚ := 35
  maxPnlSolPct : ℚ := -10
  slCrashFalsePositiveMinFiltPnl : ℚ := 10
  slCrashFalsePositiveMaxRawPnl : ℚ := 5

/-- Expiry second by mint. -/
abbrev CurveQuarantineCache := KeyedMap Address ℕ

namespace CurveQuarantineCache

def isActive (c : CurveQuarantineCache) (mint : Address) (nowSecs : ℕ) : Bool :=
  (AList.lookup mint c).any fun exp => decide (nowSecs < exp)

/-- Drop what has expired. -/
def prune (c : CurveQuarantineCache) (nowSecs : ℕ) : CurveQuarantineCache :=
  KeyedMap.eraseAll c (c.keys.filter fun m => !isActive c m nowSecs)

end CurveQuarantineCache

def mcapSolPnlDivergencePct (filtPnlPct pnlSolPct : ℚ) : ℚ := filtPnlPct - pnlSolPct

/-- `slCrash` says that the close reason starts with `SL CRASH`. -/
def shouldQuarantineMint (slCrash : Bool) (pnlSolPct filtPnlPct rawPnlPct : ℚ)
    (cfg : CurveQuarantineConfig) : Bool :=
  if ¬ cfg.enabled then false
  else if pnlSolPct > cfg.maxPnlSolPct then false
  else if mcapSolPnlDivergencePct filtPnlPct pnlSolPct ≥ cfg.minMcapSolDivergencePct then true
  else
    slCrash && filtPnlPct ≥ cfg.slCrashFalsePositiveMinFiltPnl &&
      rawPnlPct ≤ cfg.slCrashFalsePositiveMaxRawPnl

end Loggaper
