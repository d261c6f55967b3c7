import Loggaper.Scoring.SmartMoney
import Loggaper.Scoring.TokenFeatures

/-!
# What the registries say

A developer's record gives a category, a wallet's record makes it smart or not; a record that has
not been touched for longer than the time to live counts as none.
-/

namespace Loggaper

/-- A record whose last trade is too long ago; a time to live of zero never ends. -/
def isStale (lastSeenUnix now ttlSecs : ℕ) : Bool :=
  decide (0 < ttlSecs) && decide (ttlSecs < now - lastSeenUnix)

/-! ## Developers -/

def categorize (rec : DevRecord) (now ttlSecs : ℕ) : DevCategory :=
  if isStale rec.lastSeenUnix now ttlSecs then .stale
  else if 3 ≤ rec.score then .aPlus
  else if 1 ≤ rec.score then .a
  else if rec.score ≤ -2 then .bad
  else .neutral

/-- The registry never calls a developer fresh. -/
theorem categorize_ne_fresh (rec : DevRecord) (now ttlSecs : ℕ) :
    categorize rec now ttlSecs ≠ .fresh := by
  unfold categorize
  split_ifs <;> exact DevCategory.noConfusion

namespace DevRanker

/-- The category of a developer, with the record. -/
def category (r : DevRanker) (dev : Address) (now ttlSecs : ℕ) : DevCategory × DevRecord :=
  match AList.lookup dev r with
  | some rec => (categorize rec now ttlSecs, rec)
  | none => (.neutral, {})

theorem category_ne_fresh (r : DevRanker) (dev : Address) (now ttlSecs : ℕ) :
    (r.category dev now ttlSecs).1 ≠ .fresh := by
  unfold category
  split
  · exact categorize_ne_fresh _ now ttlSecs
  · exact DevCategory.noConfusion

end DevRanker

/-! ## Wallets -/

namespace WalletRecord

def winrate (rec : WalletRecord) : ℚ :=
  if rec.trades = 0 then 0 else rec.wins.toNat / rec.trades.toNat

def avgPnlPct (rec : WalletRecord) : ℚ :=
  if rec.trades = 0 then 0 else rec.pnlPctSum / rec.trades.toNat

/-- Enough trades, most of them won, and not stale. -/
def isSmart (rec : WalletRecord) (now ttlSecs : ℕ) : Bool :=
  if isStale rec.lastSeenUnix now ttlSecs then false
  else if rec.trades < 4 then false
  else decide (3 / 5 ≤ rec.winrate) && decide (5 ≤ rec.avgPnlPct)

end WalletRecord

namespace SmartMoney

variable (r : SmartMoney) (now ttlSecs : ℕ)

def isSmartWallet (w : Address) : Bool := (AList.lookup w r).any fun rec => rec.isSmart now ttlSecs

/-- A wallet that is listed twice counts twice. -/
def countSmart (wallets : List Address) : ℕ := wallets.countP (r.isSmartWallet now ttlSecs)

def filterSmartWallets (wallets : List Address) : List Address :=
  wallets.filter (r.isSmartWallet now ttlSecs)

end SmartMoney

end Loggaper
