import Loggaper.Helper
import Loggaper.Lib.KeyedMap
import Loggaper.Lib.Tally

/-!
# The developer ranking

The registry of the developers whose tokens the bot has traded. Every closed trade that names the
developer is one outcome in the developer's record.
-/

namespace Loggaper

structure DevRecord where
  score : ℚ := 0
  totalTokens : UInt64 := 0
  strongSuccesses : UInt64 := 0
  successes : UInt64 := 0
  neutrals : UInt64 := 0
  rugs : UInt64 := 0
  lastSeenUnix : ℕ := 0
  deriving DecidableEq, Repr

inductive TokenOutcome
  | strongSuccess
  | success
  | neutral
  | rug
  deriving DecidableEq, Repr

def TokenOutcome.classify (pnlPct : ℚ) : TokenOutcome :=
  if pnlPct ≥ 50 then strongSuccess
  else if pnlPct ≥ 30 then success
  else if pnlPct ≤ -16 then rug
  else neutral

/-- One more outcome of the developer. -/
def DevRecord.updateOutcome (r : DevRecord) (outcome : TokenOutcome) (now : ℕ) : DevRecord :=
  let r := { r with totalTokens := r.totalTokens + 1, lastSeenUnix := now }
  match outcome with
  | .strongSuccess => { r with score := r.score + 2, strongSuccesses := r.strongSuccesses + 1 }
  | .success => { r with score := r.score + 1, successes := r.successes + 1 }
  | .neutral => { r with neutrals := r.neutrals + 1 }
  | .rug => { r with score := r.score - 2, rugs := r.rugs + 1 }

theorem DevRecord.totalTokens_updateOutcome (r : DevRecord) (outcome : TokenOutcome) (now : ℕ) :
    (r.updateOutcome outcome now).totalTokens = r.totalTokens + 1 := by
  cases outcome <;> rfl

abbrev DevRanker := KeyedMap Address DevRecord

namespace DevRanker

variable (r : DevRanker)

/-- The record of a developer; an unknown one has none of everything. -/
def record (dev : Address) : DevRecord := (AList.lookup dev r).getD {}

def updateOutcome (dev : Address) (outcome : TokenOutcome) (now : ℕ) : DevRanker :=
  r.insert dev ((r.record dev).updateOutcome outcome now)

theorem totalTokens_updateOutcome (dev dev' : Address) (outcome : TokenOutcome) (now : ℕ) :
    ((r.updateOutcome dev outcome now).record dev').totalTokens =
      (r.record dev').totalTokens + if dev' = dev then 1 else 0 := by
  unfold updateOutcome record
  rw [KeyedMap.lookup_insert_eq]
  by_cases h : dev' = dev
  · subst h
    simp [DevRecord.totalTokens_updateOutcome]
  · simp [h]

end DevRanker

end Loggaper
