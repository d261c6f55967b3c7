import Loggaper.Helper

/-!
# Brokers: receipts and errors

What a broker answers to `buy` and `sell`, and the predicates that the manager asks of an error.
-/

namespace Loggaper

/-- What the manager and the brokers read of a token pool. -/
structure Pool where
  mint : Address
  marketCap : Amount
  deriving DecidableEq, Repr

structure BuyReceipt where
  /-- SOL actually spent. -/
  solSpent : ℚ
  tokensReceived : ℚ
  signature : Option String
  /-- Implied market cap from the reserves after the confirmed fill. -/
  entryMcapFillSol : Option ℚ
  deriving DecidableEq, Repr

structure SellReceipt where
  /-- Net SOL change of the wallet. -/
  solReceivedActual : ℚ
  solReceivedEstimated : ℚ
  signature : Option String
  deriving DecidableEq, Repr

inductive BrokerError
  | insufficientBalance (have_ need : ℚ)
  | positionNotFound (mint : Address)
  | transactionFailed (msg : String)
  | jupiterSellExhausted (msg : String)
  | mintNotOnChain (mint detail : String)
  | custom (msg : String)
  deriving DecidableEq, Repr

namespace BrokerError

/-- Full exit failed on Jupiter routing: the operator has to sell by hand. -/
def requiresManualSell : BrokerError → Bool
  | jupiterSellExhausted _ => true
  | _ => false

def isMintNotOnChain : BrokerError → Bool
  | mintNotOnChain _ _ => true
  | _ => false

end BrokerError

/-- Post-graduation BUY found no Jupiter route. -/
def BrokerError.isPostGradNoRoute : BrokerError → Bool
  | custom msg => textContains msg "post_grad_no_route"
  | _ => false

/-- The text of an error that carries a message. The balance and position errors carry numbers
and an address, and none of the texts that the manager looks for. -/
def BrokerError.text : BrokerError → String
  | insufficientBalance _ _ => "Insufficient balance: "
  | positionNotFound _ => "No open position for mint "
  | transactionFailed msg => "Transaction failed: " ++ msg
  | jupiterSellExhausted msg => "Jupiter sell exhausted (manual exit required): " ++ msg
  | mintNotOnChain mint detail => "Mint not on-chain: " ++ mint ++ " (" ++ detail ++ ")"
  | custom msg => "Custom : " ++ msg

/-- RPC never showed the mint account, or it is still missing after the wait. -/
def isBuyMintUnavailable (err : BrokerError) : Bool :=
  err.isMintNotOnChain ||
    let msg := err.text.toLower
    textContains msg "mint account not found" ||
      (textContains msg "buy mint" && textContains msg "accountnotfound") ||
      textContains msg "not visible on rpc"

end Loggaper
