import Loggaper.Launchpads.Pump.Pool
import Loggaper.Lib.KeyedMap
import Loggaper.Trading.Swarm

/-!
# The launchpad storage

One bucket for each launched token: its pool, its swarm of traders and the slot of its launch. The
storage is keyed by the address of the pool that the token will migrate to, derived from the mint
(`poolPda`, a parameter). Only the storage sends trades to a swarm, in their order, so the bucket
holds the swarm itself, as of its last trade.
-/

namespace Loggaper

structure TokenBucket where
  pool : Bonding
  /-- `none` once a panic has stopped the swarm's task. -/
  swarm : Option Swarm
  createdAt : Slot
  deriving DecidableEq, Repr

namespace TokenBucket

def new (pool : Bonding) (createdAt : Slot) : TokenBucket where
  pool := pool
  swarm := some (.new pool.tokenDecimals pool.quoteDecimals)
  createdAt := createdAt

variable (b : TokenBucket)

/-- The traders of one type; a stopped swarm answers with none. -/
def tradersByType (traderType : TraderType) : List (Address × Trader) :=
  b.swarm.elim [] fun s => s.tradersByType traderType

/-- The role of a trader at a slot. The difference of the slots wraps. -/
def role (sniperThreshold : UInt64) (slot : Slot) (user : Address) : TraderType :=
  if user ∈ b.pool.creators then .creator
  else if slot - b.createdAt < sniperThreshold then .sniper
  else .regular

/-- A trade updates the pool and the swarm. -/
def trade (sniperThreshold : UInt64) (slot : Slot) (e : TradeEvent) : TokenBucket :=
  { b with
    pool := b.pool.update (.trade e)
    swarm := b.swarm.bind fun s => s.update e.user e.offer (b.role sniperThreshold slot e.user) }

end TokenBucket

structure PumpLaunchpadStorage where
  tokens : KeyedMap Address TokenBucket
  sniperThreshold : UInt64

namespace PumpLaunchpadStorage

def new (sniperThreshold : UInt64) : PumpLaunchpadStorage := ⟨∅, sniperThreshold⟩

variable (poolPda : Address → Address) (s : PumpLaunchpadStorage)

/-- The bucket of a mint. -/
def bucket (mint : Address) : Option TokenBucket := AList.lookup (poolPda mint) s.tokens

/-- One event, and whether it signals its end. A trade of an unknown token drops the signal. -/
def react (slot : Slot) : PumpEvent → PumpLaunchpadStorage × Bool
  | .create e =>
    ({ s with
      tokens := s.tokens.insert (poolPda e.mint) (.new (.new e.mint e.creator) slot) }, true)
  | .trade e =>
    match s.bucket poolPda e.mint with
    | none => (s, false)
    | some bucket =>
      ({ s with
        tokens := s.tokens.insert (poolPda e.mint) (bucket.trade s.sniperThreshold slot e) }, true)

end PumpLaunchpadStorage

/-! ## The actor -/

inductive PumpLaunchpadCommand
  | getMint (ammPool : Address)
  | event (slot : Slot) (e : PumpEvent)
  | getBucket (mint : Address)
  | tokenExists (mint : Address)
  deriving DecidableEq, Repr

inductive LaunchpadAnswer
  | mint (m : Option Address)
  | finished
  | bucket (b : TokenBucket)
  | tokenExists (e : Bool)
  deriving DecidableEq, Repr

/-- The actor takes one command. Without an answer it drops the reply channel. -/
def PumpLaunchpadStorage.listen (poolPda : Address → Address) (s : PumpLaunchpadStorage) :
    PumpLaunchpadCommand → PumpLaunchpadStorage × Option LaunchpadAnswer
  | .getMint ammPool => (s, some (.mint ((AList.lookup ammPool s.tokens).map (·.pool.mint))))
  | .event slot e =>
    let r := s.react poolPda slot e
    (r.1, if r.2 then some .finished else none)
  | .getBucket mint => (s, (s.bucket poolPda mint).map .bucket)
  | .tokenExists mint => (s, some (.tokenExists (s.bucket poolPda mint).isSome))

end Loggaper
