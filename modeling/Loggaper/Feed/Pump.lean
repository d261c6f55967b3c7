import Loggaper.Helper

/-!
# Events of the pump launchpad

What the log feed parses out of a transaction, and the general actions that the rest of the bot
sees instead. Fields that only the parser fills are left out.
-/

namespace Loggaper

/-- `PRECISION`: the decimals of a pump token. -/
def precision : ℕ := 6

abbrev Slot := UInt64

structure CreateEvent where
  name : String
  symbol : String
  uri : String
  mint : Address
  user : Address
  creator : Address
  isMayhemMode : Bool
  quoteMint : Address
  deriving DecidableEq, Repr

structure TradeEvent where
  mint : Address
  solAmount : UInt64
  tokenAmount : UInt64
  isBuy : Bool
  user : Address
  virtualSolReserves : UInt64
  virtualTokenReserves : UInt64
  realSolReserves : UInt64
  realTokenReserves : UInt64
  deriving DecidableEq, Repr

inductive PumpEvent
  | create (e : CreateEvent)
  | trade (e : TradeEvent)
  deriving DecidableEq, Repr

def PumpEvent.mint : PumpEvent → Address
  | create e => e.mint
  | trade e => e.mint

/-! ## General actions -/

inductive Currency
  | native (a : Amount)
  | dollar (a : Amount)
  deriving DecidableEq, Repr

def Currency.amount : Currency → Amount
  | native a => a
  | dollar a => a

structure GeneralMetadata where
  name : String
  ticker : String
  uri : String
  deriving DecidableEq, Repr

structure GeneralCreate where
  mint : Address
  user : Address
  metadata : Option GeneralMetadata
  quoteMint : Address
  deriving DecidableEq, Repr

structure GeneralBuy where
  mint : Address
  user : Address
  bought : Amount
  spent : Currency
  deriving DecidableEq, Repr

structure GeneralSell where
  mint : Address
  user : Address
  sold : Amount
  received : Currency
  deriving DecidableEq, Repr

inductive TradeAction
  | buy (b : GeneralBuy)
  | sell (s : GeneralSell)
  deriving DecidableEq, Repr

inductive Action
  | create (c : GeneralCreate)
  | trade (t : TradeAction)
  deriving DecidableEq, Repr

def TradeEvent.toTradeAction (e : TradeEvent) : TradeAction :=
  if e.isBuy then
    .buy {
      mint := e.mint
      user := e.user
      bought := .fromRaw e.tokenAmount.toNat precision
      spent := .native (.fromRaw e.solAmount.toNat 9) }
  else
    .sell {
      mint := e.mint
      user := e.user
      sold := .fromRaw e.tokenAmount.toNat precision
      received := .native (.fromRaw e.solAmount.toNat 9) }

def PumpEvent.toAction : PumpEvent → Action
  | create e => .create {
      mint := e.mint
      user := e.user
      metadata := some { name := e.name, ticker := e.symbol, uri := e.uri }
      quoteMint := e.quoteMint }
  | trade e => .trade e.toTradeAction

/-- What a trade offers to the swarm. -/
inductive Offer
  | buy (buyFor : ℕ) (received : Amount)
  | sell (sellAmount : Amount) (received : ℕ)
  deriving DecidableEq, Repr

def TradeAction.toOffer : TradeAction → Offer
  | buy b => .buy b.spent.amount.raw b.bought
  | sell s => .sell s.sold s.received.amount.raw

/-- An action is about the mint of the event it comes from. -/
def Action.mint : Action → Address
  | create c => c.mint
  | trade (.buy b) => b.mint
  | trade (.sell s) => s.mint

theorem TradeEvent.toOffer_eq (e : TradeEvent) :
    e.toTradeAction.toOffer =
      if e.isBuy then .buy e.solAmount.toNat (.fromRaw e.tokenAmount.toNat precision)
      else .sell (.fromRaw e.tokenAmount.toNat precision) e.solAmount.toNat := by
  unfold TradeEvent.toTradeAction
  split_ifs <;> rfl

end Loggaper
