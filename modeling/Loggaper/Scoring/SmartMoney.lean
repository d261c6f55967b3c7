import Loggaper.Helper
import Loggaper.Lib.KeyedMap
import Loggaper.Lib.Tally

/-!
# The smart-money registry

The wallets that were among the early buyers of the bot's own trades. A closed trade counts once
for each entry of its list of early buyers.
-/

namespace Loggaper

structure WalletRecord where
  trades : UInt64 := 0
  wins : UInt64 := 0
  losses : UInt64 := 0
  /-- Over the closed trades that the wallet was an early buyer of. -/
  pnlPctSum : ℚ := 0
  lastSeenUnix : ℕ := 0
  deriving DecidableEq, Repr

/-- One more closed trade of the wallet. -/
def WalletRecord.updateOutcome (r : WalletRecord) (pnlPct : ℚ) (now : ℕ) : WalletRecord :=
  let r := { r with
    trades := r.trades + 1, pnlPctSum := r.pnlPctSum + pnlPct, lastSeenUnix := now }
  if pnlPct > 0 then { r with wins := r.wins + 1 } else { r with losses := r.losses + 1 }

theorem WalletRecord.trades_updateOutcome (r : WalletRecord) (pnlPct : ℚ) (now : ℕ) :
    (r.updateOutcome pnlPct now).trades = r.trades + 1 := by
  unfold updateOutcome
  split_ifs <;> rfl

abbrev SmartMoney := KeyedMap Address WalletRecord

namespace SmartMoney

variable (r : SmartMoney)

/-- The record of a wallet; an unknown one has none of everything. -/
def record (wallet : Address) : WalletRecord := (AList.lookup wallet r).getD {}

def updateOutcome (wallet : Address) (pnlPct : ℚ) (now : ℕ) : SmartMoney :=
  r.insert wallet ((r.record wallet).updateOutcome pnlPct now)

def updateOutcomes (wallets : List Address) (pnlPct : ℚ) (now : ℕ) : SmartMoney :=
  wallets.foldl (fun r w => r.updateOutcome w pnlPct now) r

/-- The trades of one wallet, over the entries of the lists. -/
def trades (pnlPct : ℚ) (now : ℕ) (wallet : Address) :
    Tally fun (r : SmartMoney) w => r.updateOutcome w pnlPct now where
  count r := (r.record wallet).trades
  adds w := if w = wallet then 1 else 0
  count_step r w := by
    simp only [updateOutcome, record, KeyedMap.lookup_insert_eq]
    by_cases h : wallet = w
    · subst h
      simp [WalletRecord.trades_updateOutcome]
    · simp [h, Ne.symm h]

theorem total_trades (pnlPct : ℚ) (now : ℕ) (wallet : Address) (wallets : List Address) :
    (trades pnlPct now wallet).total wallets = wallets.count wallet := by
  induction wallets with
  | nil => rfl
  | cons w ws ih =>
    rw [Tally.total_cons, ih, List.count_cons, add_comm]
    simp [trades]

theorem trades_updateOutcomes (wallets : List Address) (pnlPct : ℚ) (now : ℕ) (wallet : Address) :
    ((r.updateOutcomes wallets pnlPct now).record wallet).trades =
      (r.record wallet).trades + UInt64.ofNat (wallets.count wallet) := by
  have h := (trades pnlPct now wallet).count_foldl r wallets
  rw [total_trades] at h
  exact h

end SmartMoney

end Loggaper
