import Loggaper.Autobuy.Broker
import Loggaper.Lib.KeyedMap

/-!
# The demo broker

A wallet in memory: SOL against tokens at the market cap of the pool, one token for each SOL spent.
-/

namespace Loggaper

structure MockPosition where
  tokens : ℚ
  entryMcap : ℚ

structure MockBroker where
  balance : ℚ
  positions : KeyedMap Address MockPosition

def SellReceipt.mock (sol : ℚ) (signature : Option String) : SellReceipt := ⟨sol, sol, signature⟩

namespace MockBroker

def new (initialBalanceSol : ℚ) : MockBroker := ⟨initialBalanceSol, ∅⟩

variable (b : MockBroker)

def buy (mint : Address) (amountSol : ℚ) (pool : Pool) :
    Except BrokerError BuyReceipt × MockBroker :=
  if b.balance < amountSol then (.error (.insufficientBalance b.balance amountSol), b)
  else
    let tokensReceived := amountSol
    (.ok ⟨amountSol, tokensReceived, none, none⟩,
      { balance := b.balance - amountSol
        positions := b.positions.insert mint ⟨tokensReceived, pool.marketCap.toFloat⟩ })

/-- Whether the token account is closed as well makes no difference here. -/
def sell (mint : Address) (tokenAmount : ℚ) (pool : Pool) :
    Except BrokerError SellReceipt × MockBroker :=
  match AList.lookup mint b.positions with
  | none => (.error (.positionNotFound mint), b)
  | some pos =>
    let priceRatio := if pos.entryMcap > 0 then pool.marketCap.toFloat / pos.entryMcap else 1
    let sol := tokenAmount * priceRatio
    let pos := { pos with tokens := pos.tokens - tokenAmount }
    (.ok (.mock sol none),
      { balance := b.balance + sol
        positions :=
          if pos.tokens ≤ 0 then b.positions.erase mint else b.positions.insert mint pos })

def forgetPosition (mint : Address) : MockBroker := { b with positions := b.positions.erase mint }

/-! ## The balance -/

/-- What a buy takes out. -/
theorem balance_buy (mint : Address) (amountSol : ℚ) (pool : Pool) :
    (b.buy mint amountSol pool).2.balance +
      (b.buy mint amountSol pool).1.toOption.elim 0 (fun _ => amountSol) = b.balance := by
  unfold buy
  split_ifs
  · exact add_zero _
  · exact sub_add_cancel _ _

/-- What a sell brings in. -/
theorem balance_sell (mint : Address) (tokenAmount : ℚ) (pool : Pool) :
    (b.sell mint tokenAmount pool).2.balance =
      b.balance + (b.sell mint tokenAmount pool).1.toOption.elim 0 (·.solReceivedActual) := by
  unfold sell
  split
  · exact (add_zero _).symm
  · rfl

end MockBroker

end Loggaper
